import Descent.Parser.Invoke
import Mathlib.Logic.Relation

namespace Descent

-- The parsers that stand in a rule itself.
def Rule.parts : Rule Parser → List Parser
  | .sequence items _ => items
  | .choice alternatives => alternatives
  | .attempt p | .maybe p | .many p | .many1 p | .label _ p | .lexeme p | .bind p _ => [p]
  | .sepBy element following => [element, following]
  | _ => []

theorem Rule.parts_copied (rule : Rule Parser) : rule.copied.parts = rule.parts := by
  cases rule <;> rfl

-- The parsers that a rule may invoke. A continuation answers only to matches that are admitted.
def Rule.Calls (env : Env) (admits : Match → Prop) : Rule Parser → Parser → Prop
  | .sequence items _, q => q ∈ items
  | .choice alternatives, q => q ∈ alternatives
  | .attempt p, q | .maybe p, q | .many p, q | .many1 p, q | .label _ p, q | .lexeme p, q => q = p
  | .sepBy element following, q => q = element ∨ q = following
  | .bind first next, q => q = first ∨ ∃ m, admits m ∧ Rule.chosen env (next m) = .ok q
  | .forward slot _, q | .follow slot _, q => env.target? slot = some q
  | .lookUp id, q => env.lookUp id = .ok q
  | .char _, _ | .pattern _ _, _ | .symbol _, _ | .whiteSpace, _ | .succeed _, _ | .custom _, _ =>
      False

-- Surroundings that hold nothing but the targets of placeholders.
def Env.ofTargets (targets : List Parser) : Env where
  target? slot := targets[slot]?
  lookUp id := .error (.unbound id)
  build _ := .error .noSuchItem
  tracing := false

namespace Parser

def Reaches (env : Env) (admits : Match → Prop) : Parser → Parser → Prop :=
  Relation.ReflTransGen fun p q => p.rule.Calls env admits q

-- Every parser of the grammar below `p` has a rule that is allowed.
def Throughout (env : Env) (admits : Match → Prop) (allowed : Rule Parser → Prop) (p : Parser) :
    Prop :=
  ∀ q, p.Reaches env admits q → allowed q.rule

variable {env : Env} {admits : Match → Prop} {allowed : Rule Parser → Prop} {p q : Parser}

theorem Throughout.here (h : p.Throughout env admits allowed) : allowed p.rule :=
  h p .refl

theorem Throughout.call (h : p.Throughout env admits allowed) (hq : p.rule.Calls env admits q) :
    q.Throughout env admits allowed :=
  fun r hr => h r (hr.head hq)

theorem Throughout.mono {other : Rule Parser → Prop} (h : p.Throughout env admits allowed)
    (himp : ∀ rule, allowed rule → other rule) : p.Throughout env admits other :=
  fun q hq => himp q.rule (h q hq)

-- It is enough to list parsers that invoke nothing outside of the list.
theorem throughout_of_closed (members : List Parser) (hp : p ∈ members)
    (hallowed : ∀ q ∈ members, allowed q.rule)
    (hclosed : ∀ q ∈ members, ∀ r, q.rule.Calls env admits r → r ∈ members) :
    p.Throughout env admits allowed := by
  intro q hq
  have hmem : q ∈ members := by
    induction hq with
    | refl => exact hp
    | tail _ hcall ih => exact hclosed _ ih _ hcall
  exact hallowed q hmem

end Parser

end Descent
