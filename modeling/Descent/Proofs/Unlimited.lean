import Descent.Proofs.Limit

namespace Descent

namespace Run

variable {α β : Type} {x y z : Run α} {f g : α → Run β}

-- Unless `x` was cut off, `y` ends as `x` does. How many invocations it takes to get there is left
-- out of the comparison.
def Foretells (x y : Run α) : Prop :=
  x.outcome ≠ .error .nestingExceeded → y.outcome = x.outcome

theorem Foretells.refl (x : Run α) : x.Foretells x :=
  fun _ => rfl

theorem Foretells.of_outcome_eq (h : x.outcome = y.outcome) : x.Foretells y :=
  fun _ => h.symm

theorem UpTo.foretells (h : x.UpTo y) : x.Foretells y :=
  fun hx => by rw [h.eq hx]

theorem Foretells.trans (hxy : x.Foretells y) (hyz : y.Foretells z) : x.Foretells z := by
  intro hx
  have hy : y.outcome = x.outcome := hxy hx
  rw [← hy] at hx ⊢
  exact hyz hx

theorem Foretells.bind (h : x.Foretells y) (hfg : ∀ a, (f a).Foretells (g a)) :
    (x >>= f).Foretells (y >>= g) := by
  intro hcut
  cases hx : x.outcome with
  | error e =>
      rw [bind_of_error f hx] at hcut ⊢
      have hne : e ≠ .nestingExceeded := fun he => hcut (congrArg Except.error he)
      have hy : y.outcome = .error e := hx ▸ h (by simp [hx, hne])
      rw [bind_of_error g hy]
  | ok a =>
      rw [bind_of_ok f hx] at hcut ⊢
      have hy : y.outcome = .ok a := hx ▸ h (by simp [hx])
      rw [bind_of_ok g hy]
      exact hfg a hcut

theorem foretells_stepwise : Stepwise Foretells :=
  ⟨.refl, fun h hfg => h.bind hfg⟩

-- The same comparison the other way round.
theorem foretold_stepwise : Stepwise fun x y => y.Foretells x :=
  ⟨fun x => .refl x, fun h hfg => h.bind hfg⟩

theorem Foretells.map (h : x.Foretells y) (f : α → β) : (f <$> x).Foretells (f <$> y) := by
  rw [← bind_pure_comp, ← bind_pure_comp]
  exact h.bind fun _ => .refl _

end Run

namespace Parser

variable {env : Env} {p q : Parser} {t : Text} {o o' : Except Fault Result}

theorem invoke_foretells {limit higher : Nat} (h : limit ≤ higher) (p : Parser) (t : Text) :
    (p.invoke env limit t).Foretells (p.invoke env higher t) :=
  (invoke_upTo h p t).foretells

-- A result under one limit is the result under every higher one, and under every limit that does not cut
-- the parser off.
theorem outcome_of_le {limit higher : Nat} {r : Result} (hle : limit ≤ higher)
    (h : (p.invoke env limit t).outcome = .ok r) : (p.invoke env higher t).outcome = .ok r := by
  have hcut : (p.invoke env limit t).outcome ≠ .error .nestingExceeded := by simp [h]
  exact (invoke_foretells hle p t hcut).trans h

theorem outcome_or_cut {limit : Nat} {r : Result} (h : (p.invoke env limit t).outcome = .ok r) (n : Nat) :
    (p.invoke env n t).outcome = .error .nestingExceeded ∨ (p.invoke env n t).outcome = .ok r := by
  refine or_iff_not_imp_left.mpr fun hcut => ?_
  have hmax : (p.invoke env (max limit n) t).outcome = .ok r := outcome_of_le (Nat.le_max_left _ _) h
  exact (invoke_foretells (Nat.le_max_right limit n) p t hcut).symm.trans hmax

-- The outcome under every limit from some level on.
def ComesTo (env : Env) (p : Parser) (t : Text) (o : Except Fault Result) : Prop :=
  ∃ level, ∀ limit, level ≤ limit → (p.invoke env limit t).outcome = o

theorem ComesTo.of_outcome {limit : Nat} (h : (p.invoke env limit t).outcome = o)
    (hcut : o ≠ .error .nestingExceeded) : p.ComesTo env t o :=
  ⟨limit, fun _ hle => (invoke_foretells hle p t (h ▸ hcut)).trans h⟩

theorem ComesTo.unique (h : p.ComesTo env t o) (h' : p.ComesTo env t o') : o = o' := by
  obtain ⟨level, hlevel⟩ := h
  obtain ⟨level', hlevel'⟩ := h'
  rw [← hlevel (max level level') (Nat.le_max_left _ _)]
  exact hlevel' (max level level') (Nat.le_max_right _ _)

-- Each parser comes to one outcome on a text, and to no other. One that is cut off under every limit
-- comes to that.
theorem existsUnique_comesTo (env : Env) (p : Parser) (t : Text) :
    ∃ o, p.ComesTo env t o ∧ ∀ o', p.ComesTo env t o' → o' = o := by
  rcases Classical.forall_or_exists_not fun limit =>
    (p.invoke env limit t).outcome = .error .nestingExceeded with hcut | ⟨limit, hlimit⟩
  · have hcomes : p.ComesTo env t (.error .nestingExceeded) := ⟨0, fun limit _ => hcut limit⟩
    exact ⟨_, hcomes, fun o' h => h.unique hcomes⟩
  · have hcomes := ComesTo.of_outcome rfl hlimit
    exact ⟨_, hcomes, fun o' h => h.unique hcomes⟩

theorem exists_comesTo_both {env' : Env}
    (hpq : ∀ limit, ∃ higher, (p.invoke env limit t).Foretells (q.invoke env' higher t))
    (hqp : ∀ limit, ∃ higher, (q.invoke env' limit t).Foretells (p.invoke env higher t)) :
    ∃ o, p.ComesTo env t o ∧ q.ComesTo env' t o := by
  rcases Classical.forall_or_exists_not fun limit =>
    (p.invoke env limit t).outcome = .error .nestingExceeded with hp | ⟨limit, hlimit⟩
  · have hq : ∀ limit, (q.invoke env' limit t).outcome = .error .nestingExceeded := by
      intro limit
      obtain ⟨higher, hhigher⟩ := hqp limit
      by_cases hcut : (q.invoke env' limit t).outcome = .error .nestingExceeded
      · exact hcut
      · exact (hhigher hcut).symm.trans (hp higher)
    exact ⟨_, ⟨0, fun limit _ => hp limit⟩, ⟨0, fun limit _ => hq limit⟩⟩
  · obtain ⟨higher, hhigher⟩ := hpq limit
    exact ⟨_, ComesTo.of_outcome rfl hlimit, ComesTo.of_outcome (hhigher hlimit) hlimit⟩

end Parser

end Descent
