import Descent.Proofs.Reach

namespace Descent

-- A rule of a grammar under the name by which parsers refer to it: a placeholder, or an id that is
-- looked up on every call.
inductive Reference where
  | slot (n : Nat)
  | id (name : String)
deriving Repr, DecidableEq

def Env.body? (env : Env) : Reference → Option Parser
  | .slot n => env.target? n
  | .id name => (env.lookUp name).toOption

namespace Rule

def reference? {P : Type} : Rule P → Option Reference
  | .forward slot _ | .follow slot _ => some (.slot slot)
  | .lookUp id => some (.id id)
  | _ => none

-- The parts that a parser may invoke on the whole of its text. An item of a sequence is one of them
-- if all the items in front of it may leave the text as it is.
def Opens (mayStay : Parser → Prop) : Rule Parser → Parser → Prop
  | .sequence items _, q =>
      ∃ before after, items = before ++ q :: after ∧ ∀ p ∈ before, mayStay p
  | .choice alternatives, q => q ∈ alternatives
  | .attempt p, q | .maybe p, q | .many p, q | .many1 p, q | .label _ p, q | .lexeme p, q => q = p
  | .sepBy element _, q => q = element
  | .bind first _, q => q = first
  | _, _ => False

-- The answers of the continuation of a bind.
def Continues (env : Env) : Rule Parser → Parser → Prop
  | .bind _ next, q => ∃ m, chosen env (next m) = .ok q
  | _, _ => False

-- The faults that a rule raises of itself, and not by invoking another parser.
def Raises (env : Env) : Rule Parser → Fault → Prop
  | .sequence items reducer, e => ∃ ms, ms.length = items.length ∧ reducer.apply ms = .error e
  | .bind _ next, e => ∃ m, chosen env (next m) = .error e
  | .forward slot name, e | .follow slot name, e =>
      env.target? slot = none ∧ e = .mistake (.forwardUndefined name)
  | .lookUp id, e => env.lookUp id = .error e
  | .custom f, e => ∃ t, f.apply t = .error e
  | _, _ => False

variable {env : Env} {admits : Match → Prop} {mayStay : Parser → Prop} {rule : Rule Parser}
  {q : Parser}

theorem Opens.calls (h : rule.Opens mayStay q) : rule.Calls env admits q := by
  cases rule with
  | sequence items reducer =>
      obtain ⟨before, after, rfl, -⟩ := h
      exact List.mem_append_right before List.mem_cons_self
  | sepBy element following => exact .inl h
  | bind first next => exact .inl h
  | choice alternatives => exact h
  | attempt p => exact h
  | maybe p => exact h
  | many p => exact h
  | many1 p => exact h
  | label name p => exact h
  | lexeme p => exact h
  | _ => exact h.elim

theorem Continues.calls (h : rule.Continues env q) : rule.Calls env (fun _ => True) q := by
  cases rule with
  | bind first next =>
      obtain ⟨m, hm⟩ := h
      exact .inr ⟨m, trivial, hm⟩
  | _ => exact h.elim

theorem calls_of_body {ref : Reference} (href : rule.reference? = some ref)
    (hbody : env.body? ref = some q) : rule.Calls env admits q := by
  cases rule with
  | forward slot name => cases href; exact hbody
  | follow slot name => cases href; exact hbody
  | lookUp id =>
      cases href
      cases hfound : env.lookUp id with
      | error e => simp [Env.body?, hfound, Except.toOption] at hbody
      | ok p =>
          simp only [Env.body?, hfound, Except.toOption, Option.some.injEq] at hbody
          exact hbody ▸ hfound
  | _ => cases href

end Rule

namespace Parser

variable {env : Env} {mayStay : Parser → Prop} {p q : Parser} {ref : Reference}

-- What is opened is a part, and parts are smaller.
theorem sizeOf_lt_of_opens (h : p.rule.Opens mayStay q) : sizeOf q < sizeOf p := by
  obtain ⟨name, rule⟩ := p
  cases rule with
  | sequence items reducer =>
      obtain ⟨before, after, rfl, -⟩ := h
      have hmem : sizeOf q < sizeOf (before ++ q :: after) := List.sizeOf_lt_of_mem (by simp)
      simp
      omega
  | choice alternatives =>
      have hmem := List.sizeOf_lt_of_mem h
      simp
      omega
  | attempt p => cases h; simp; omega
  | maybe p => cases h; simp; omega
  | many p => cases h; simp; omega
  | many1 p => cases h; simp; omega
  | label name p => cases h; simp; omega
  | lexeme p => cases h; simp; omega
  | sepBy element following => cases h; simp; omega
  | bind first next => cases h; simp; omega
  | _ => exact h.elim

-- The references that a parser may come to before any character is taken.
inductive HeadReaches (mayStay : Parser → Prop) : Parser → Reference → Prop
  | here {p : Parser} {ref : Reference} :
      p.rule.reference? = some ref → HeadReaches mayStay p ref
  | opens {p q : Parser} {ref : Reference} :
      p.rule.Opens mayStay q → HeadReaches mayStay q ref → HeadReaches mayStay p ref

-- No reference stands anywhere in a parser, nor in what its continuations answer.
inductive ReferenceFree (env : Env) : Parser → Prop
  | intro {p : Parser} : p.rule.reference? = none →
      (∀ q, p.rule.Calls env (fun _ => True) q → ReferenceFree env q) → ReferenceFree env p

end Parser

-- One rule may come to another before any character is taken.
def Env.HeadReaches (env : Env) (mayStay : Parser → Prop) (a b : Reference) : Prop :=
  ∃ body, env.body? a = some body ∧ body.HeadReaches mayStay b

end Descent
