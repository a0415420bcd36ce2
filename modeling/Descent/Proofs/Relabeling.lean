import Descent.Proofs.Consumption
import Descent.Proofs.Likeness

namespace Descent

-- Parsers that differ in names only, their own and those of the parsers below them.
inductive Parser.Like (alike : Expr → Expr → Prop) : Parser → Parser → Prop
  | intro {p p' : Parser} : p.rule.Like (Parser.Like alike) alike p'.rule → Like alike p p'

-- Surroundings in which everything that rules refer to differs in names only.
structure Env.Like (alike : Expr → Expr → Prop) (env env' : Env) : Prop where
  targets : ∀ slot, Option.Rel (Parser.Like alike) (env.target? slot) (env'.target? slot)
  ids : ∀ id, Agree (Parser.Like alike) (env.lookUp id) (env'.lookUp id)
  builds : ∀ e e', alike e e' → Agree (Parser.Like alike) (env.build e) (env'.build e')

section

variable {alike : Expr → Expr → Prop}

theorem Parser.like_closed : Parser.Closed (Parser.Like alike) alike :=
  fun _ _ => .intro

theorem Parser.like_refl (h : ∀ e, alike e e) (p : Parser) : p.Like alike p :=
  Parser.like_closed.refl h p

-- A name may be put onto a parser at any place.
theorem Parser.Like.named {p p' : Parser} (h : p.Like alike p') (name : Plain) :
    p.Like alike (p'.named name) := by
  cases h with
  | intro hrule => exact .intro hrule.copied_right

theorem Env.Like.related {env env' : Env} (h : env.Like alike env') :
    env.Related (Parser.Like alike) alike env' :=
  ⟨h.targets, h.ids, h.builds⟩

end

namespace Run

theorem outcome_stepwise : Stepwise fun x y => x.outcome = y.outcome where
  refl _ := rfl
  bind h hf := by
    rw [outcome_bind, outcome_bind, h]
    exact bind_congr hf

end Run

namespace Parser

variable {alike : Expr → Expr → Prop} {env env' : Env} {p p' : Parser}

theorem Like.outcome_eq (hp : p.Like alike p') (henv : env.Like alike env') (limit : Nat) (t : Text) :
    (p.invoke env limit t).outcome = (p'.invoke env' limit t).outcome := by
  induction limit generalizing p p' t with
  | zero => rfl
  | succ limit ih =>
      cases hp with
      | intro hrule =>
          rw [invoke_succ, invoke_succ, outcome_noted, outcome_noted]
          exact Rule.perform_compares Run.outcome_stepwise henv.related hrule fun _ _ hq u => ih hq u

end Parser

namespace Env

-- The same surroundings without any record.
def untraced (env : Env) : Env :=
  { env with tracing := false }

theorem like_untraced (env : Env) : env.traced.Like Eq env.untraced where
  targets slot := rel_refl (Parser.like_refl fun _ => rfl) (env.target? slot)
  ids id := .refl (Parser.like_refl fun _ => rfl) (env.lookUp id)
  builds e _ he := he ▸ .refl (Parser.like_refl fun _ => rfl) (env.build e)

end Env

end Descent
