import Descent.Parser.Run

namespace Descent.Run

variable {α β γ δ : Type}

-- Two runs that end alike: stopped by the same fault, or done with results that are related. What
-- was recorded on the way is left out of the comparison.
def Alike (related : α → β → Prop) (x : Run α) (y : Run β) : Prop :=
  match x.outcome, y.outcome with
  | .ok a, .ok b => related a b
  | .error e, .error f => e = f
  | _, _ => False

variable {related : α → β → Prop} {x : Run α} {y : Run β}

theorem alike_pure {a : α} {b : β} (h : related a b) :
    (pure a : Run α).Alike related (pure b : Run β) :=
  h

theorem alike_stop (f : Fault) : (stop f : Run α).Alike related (stop f : Run β) :=
  rfl

theorem alike_lift (x : Except Fault α) :
    (lift x).Alike (fun a b => x = .ok a ∧ a = b) (lift x) := by
  cases x with
  | error e => rfl
  | ok a => exact ⟨rfl, rfl⟩

theorem Alike.bind {next : γ → δ → Prop} {f : α → Run γ} {g : β → Run δ} (h : x.Alike related y)
    (hnext : ∀ a b, related a b → (f a).Alike next (g b)) : (x >>= f).Alike next (y >>= g) := by
  unfold Alike at h ⊢
  rw [outcome_bind, outcome_bind]
  cases hx : x.outcome with
  | error e =>
      cases hy : y.outcome <;> rw [hx, hy] at h
      · exact h
      · exact h.elim
  | ok a =>
      cases hy : y.outcome <;> rw [hx, hy] at h
      · exact h.elim
      · exact hnext _ _ h

end Descent.Run
