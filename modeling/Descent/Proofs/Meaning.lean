import Descent.Proofs.Unlimited

namespace Descent

namespace Run

variable {α β : Type} {x : Nat → Run α} {y : Run α} {f : Nat → α → Run β} {g : α → Run β}

-- Runs under rising limits that from some limit on end as one run does.
def Approach (x : Nat → Run α) (y : Run α) : Prop :=
  ∃ level, ∀ limit, level ≤ limit → (x limit).outcome = y.outcome

theorem approach_same (y : Run α) : Approach (fun _ => y) y :=
  ⟨0, fun _ _ => rfl⟩

theorem Approach.bind (h : Approach x y) (hfg : ∀ a, Approach (fun limit => f limit a) (g a)) :
    Approach (fun limit => x limit >>= f limit) (y >>= g) := by
  obtain ⟨level, hlevel⟩ := h
  cases hy : y.outcome with
  | error e =>
      refine ⟨level, fun limit hlimit => ?_⟩
      have hx : (x limit).outcome = .error e := (hlevel limit hlimit).trans hy
      rw [outcome_bind_of_error _ hx, outcome_bind_of_error _ hy]
  | ok a =>
      obtain ⟨behind, hbehind⟩ := hfg a
      refine ⟨max level behind, fun limit hlimit => ?_⟩
      have hx : (x limit).outcome = .ok a := (hlevel limit (by omega)).trans hy
      dsimp only
      rw [bind_of_ok _ hx, bind_of_ok _ hy]
      exact hbehind limit (by omega)

end Run

namespace Rule

open Run (Approach approach_same)

variable {invoke : Nat → Invocation} {unlimited : Invocation} {env : Env}

section

variable (h : ∀ p t, Approach (fun limit => invoke limit p t) (unlimited p t))

include h

theorem runAll_approach (ps : List Parser) (t : Text) :
    Approach (fun limit => runAll (invoke limit) ps t) (runAll unlimited ps t) := by
  induction ps generalizing t with
  | nil => exact approach_same _
  | cons p ps ih =>
      refine (h p t).bind fun r => ?_
      cases r with
      | failed u v => exact approach_same _
      | ok u m => exact (ih u).bind fun _ => approach_same _

theorem runFirst_approach (ps : List Parser) (t : Text) :
    Approach (fun limit => runFirst (invoke limit) ps t) (runFirst unlimited ps t) := by
  induction ps with
  | nil => exact approach_same _
  | cons p ps ih =>
      refine (h p t).bind fun r => ?_
      cases r with
      | failed u v => exact ih
      | ok u m => exact approach_same _

theorem runRepeated_approach (p : Parser) (fuel : Nat) (t : Text) :
    Approach (fun limit => runRepeated (invoke limit) p fuel t) (runRepeated unlimited p fuel t) := by
  induction fuel generalizing t with
  | zero => exact approach_same _
  | succ fuel ih =>
      refine (h p t).bind fun r => ?_
      cases r with
      | failed u v => exact approach_same _
      | ok u m =>
          by_cases hidle : u = t
          · simp only [hidle, if_true]
            exact approach_same _
          · simp only [hidle, if_false]
            exact (ih u).bind fun _ => approach_same _

theorem runTarget_approach (slot : Nat) (name : String) (t : Text) :
    Approach (fun limit => runTarget (invoke limit) env slot name t)
      (runTarget unlimited env slot name t) := by
  unfold runTarget
  cases env.target? slot with
  | none => exact approach_same _
  | some p => exact h p t

theorem perform_approach (rule : Rule Parser) (t : Text) :
    Approach (fun limit => perform (invoke limit) env rule t) (perform unlimited env rule t) := by
  cases rule with
  | sequence items reducer => exact (runAll_approach h items t).bind fun _ => approach_same _
  | choice alternatives => exact runFirst_approach h alternatives t
  | attempt p | maybe p | label name p | lexeme p => exact (h p t).bind fun _ => approach_same _
  | many p | many1 p => exact (runRepeated_approach h p _ t).bind fun _ => approach_same _
  | sepBy element following =>
      refine (h element t).bind fun r => ?_
      cases r with
      | failed u v => exact approach_same _
      | ok u m =>
          by_cases hidle : u = t
          · simp only [hidle, if_true]
            exact approach_same _
          · simp only [hidle, if_false]
            exact (runRepeated_approach h following _ u).bind fun _ => approach_same _
  | bind first next =>
      refine (h first t).bind fun r => ?_
      cases r with
      | failed u v => exact approach_same _
      | ok u m => exact (approach_same _).bind fun p => (h p u).bind fun _ => approach_same _
  | forward slot name | follow slot name => exact runTarget_approach h slot name t
  | lookUp id => exact (approach_same _).bind fun p => h p t
  | char _ | pattern _ _ | symbol _ | whiteSpace | succeed _ | custom _ => exact approach_same _

end

end Rule

namespace Parser

variable {env : Env} {p q : Parser} {t : Text} {o : Except Fault Result}

-- What a parser comes to on a text.
noncomputable def meaning (env : Env) (p : Parser) (t : Text) : Except Fault Result :=
  (existsUnique_comesTo env p t).choose

-- A rule asks for finitely many invocations, so that some nesting limit is high enough for all of
-- them.
theorem comesTo_meaning (env : Env) (p : Parser) (t : Text) : p.ComesTo env t (p.meaning env t) :=
  (existsUnique_comesTo env p t).choose_spec.1

theorem ComesTo.eq_meaning (h : p.ComesTo env t o) : o = p.meaning env t :=
  h.unique (comesTo_meaning env p t)

theorem exists_comesTo_of_meaning_eq (h : p.meaning env t = q.meaning env t) :
    ∃ o, p.ComesTo env t o ∧ q.ComesTo env t o :=
  ⟨p.meaning env t, comesTo_meaning env p t, h ▸ comesTo_meaning env q t⟩

end Parser

-- Every invocation comes to its end at once.
noncomputable def Env.unlimited (env : Env) : Invocation :=
  fun p t => Run.lift (p.meaning env t)

theorem Parser.meaning_eq (env : Env) (p : Parser) (t : Text) :
    p.meaning env t = (p.rule.perform env.unlimited env t).outcome := by
  have hparts : ∀ q u, Run.Approach (fun limit => invoke env limit q u) (env.unlimited q u) :=
    fun q u => comesTo_meaning env q u
  have hrule : Run.Approach (fun limit => p.rule.perform (invoke env limit) env t)
      (p.rule.perform env.unlimited env t) := Rule.perform_approach hparts p.rule t
  obtain ⟨level, hlevel⟩ := hrule
  have hcomes : p.ComesTo env t (p.rule.perform env.unlimited env t).outcome := by
    refine ⟨level + 1, fun limit hlimit => ?_⟩
    obtain ⟨limit, rfl⟩ : ∃ n, limit = n + 1 := ⟨limit - 1, by omega⟩
    rw [invoke_succ, outcome_noted]
    exact hlevel limit (by omega)
  exact hcomes.eq_meaning.symm

end Descent
