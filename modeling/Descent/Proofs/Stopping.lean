import Descent.Proofs.Ending

namespace Descent

namespace Run

variable {α β : Type}

-- Only admitted faults stop the run.
def StopsBy (admitted : Fault → Prop) (x : Run α) : Prop :=
  ∀ e, x.outcome = .error e → admitted e

variable {admitted : Fault → Prop} {x : Run α} {f : α → Run β}

theorem stopsBy_pure (a : α) : (pure a : Run α).StopsBy admitted := by
  rintro e ⟨⟩

theorem stopsBy_lift {y : Except Fault α} (h : ∀ e, y = .error e → admitted e) :
    (lift y).StopsBy admitted :=
  h

theorem StopsBy.bind (hx : x.StopsBy admitted)
    (hf : ∀ a, x.outcome = .ok a → (f a).StopsBy admitted) : (x >>= f).StopsBy admitted := by
  intro e he
  cases h : x.outcome with
  | error e' =>
      rw [outcome_bind_of_error f h] at he
      cases he
      exact hx e h
  | ok a =>
      rw [bind_of_ok f h] at he
      exact hf a h e he

end Run

namespace Rule

open Run (stopsBy_pure stopsBy_lift)

variable {invoke : Invocation} {env : Env} {admitted : Fault → Prop} {p : Parser} {ps : List Parser}
  {t : Text}

theorem runAll_stopsBy (h : ∀ p ∈ ps, ∀ u, (invoke p u).StopsBy admitted) :
    (runAll invoke ps t).StopsBy admitted := by
  induction ps generalizing t with
  | nil => exact stopsBy_pure _
  | cons p ps ih =>
      refine (h p (by simp) t).bind fun r _ => ?_
      cases r with
      | failed u v => exact stopsBy_pure _
      | ok u m =>
          refine (ih fun q hq => h q (by simp [hq])).bind fun o _ => ?_
          cases o <;> exact stopsBy_pure _

theorem runFirst_stopsBy (h : ∀ p ∈ ps, ∀ u, (invoke p u).StopsBy admitted) :
    (runFirst invoke ps t).StopsBy admitted := by
  induction ps with
  | nil => exact stopsBy_pure _
  | cons p ps ih =>
      refine (h p (by simp) t).bind fun r _ => ?_
      cases r with
      | failed u v => exact ih fun q hq => h q (by simp [hq])
      | ok u m => exact stopsBy_pure _

-- Each round but the last takes a character, so that the rounds allowed are never used up.
theorem runRepeated_stopsBy (h : ∀ u, (invoke p u).StopsBy admitted)
    (hsuffix : ∀ u rest m, (invoke p u).outcome = .ok (.ok rest m) → rest <:+ u) {fuel : Nat}
    (hfuel : t.length < fuel) : (runRepeated invoke p fuel t).StopsBy admitted := by
  induction fuel generalizing t with
  | zero => omega
  | succ fuel ih =>
      refine (h t).bind fun r hr => ?_
      cases r with
      | failed u v => exact stopsBy_pure _
      | ok u m =>
          by_cases hidle : u = t
          · simp only [hidle, if_true]
            exact stopsBy_pure _
          · simp only [hidle, if_false]
            have hu := Text.length_lt_of_suffix (hsuffix t u m hr) hidle
            exact (ih (by omega)).bind fun _ _ => stopsBy_pure _

theorem repeated_stopsBy (h : ∀ u, (invoke p u).StopsBy admitted)
    (hsuffix : ∀ u rest m, (invoke p u).outcome = .ok (.ok rest m) → rest <:+ u) :
    (repeated invoke p t).StopsBy admitted :=
  runRepeated_stopsBy h hsuffix (by unfold roundsFor; omega)

theorem runTarget_stopsBy {slot : Nat} {name : String}
    (hundefined : env.target? slot = none → admitted (.mistake (.forwardUndefined name)))
    (hdefined : ∀ q, env.target? slot = some q → (invoke q t).StopsBy admitted) :
    (runTarget invoke env slot name t).StopsBy admitted := by
  unfold runTarget
  cases hslot : env.target? slot with
  | none => exact stopsBy_lift fun e he => Except.error.inj he ▸ hundefined hslot
  | some q => exact hdefined q hslot

theorem perform_stopsBy {rule : Rule Parser} (hraises : ∀ e, rule.Raises env e → admitted e)
    (hcalls : ∀ q, rule.Calls env (fun _ => True) q → ∀ u, (invoke q u).StopsBy admitted)
    (hsuffix : ∀ q, rule.Calls env (fun _ => True) q → ∀ u rest m,
      (invoke q u).outcome = .ok (.ok rest m) → rest <:+ u) :
    (perform invoke env rule t).StopsBy admitted := by
  cases rule with
  | choice alternatives => exact runFirst_stopsBy hcalls
  | sequence items reducer =>
      refine (runAll_stopsBy hcalls).bind fun o ho => ?_
      rcases o with _ | ⟨rest, ms⟩
      · exact stopsBy_pure _
      · have hlength : ms.length = items.length := (all_of_runAll ho).length_eq
        exact (stopsBy_lift fun e he => hraises e ⟨ms, hlength, he⟩).bind fun _ _ => stopsBy_pure _
  | attempt p => exact (hcalls p rfl t).bind fun _ _ => stopsBy_pure _
  | maybe p | label name p | lexeme p =>
      refine (hcalls p rfl t).bind fun r _ => ?_
      cases r <;> exact stopsBy_pure _
  | many p =>
      exact (repeated_stopsBy (hcalls p rfl) (hsuffix p rfl)).bind fun _ _ => stopsBy_pure _
  | many1 p =>
      refine (repeated_stopsBy (hcalls p rfl) (hsuffix p rfl)).bind fun a _ => ?_
      obtain ⟨rest, ms⟩ := a
      cases ms <;> exact stopsBy_pure _
  | sepBy element following =>
      refine (hcalls element (.inl rfl) t).bind fun r _ => ?_
      cases r with
      | failed u v => exact stopsBy_pure _
      | ok u m =>
          by_cases hidle : u = t
          · simp only [hidle, if_true]
            exact stopsBy_pure _
          · simp only [hidle, if_false]
            have hrounds : (repeated invoke following u).StopsBy admitted :=
              repeated_stopsBy (hcalls following (.inr rfl)) (hsuffix following (.inr rfl))
            exact hrounds.bind fun _ _ => stopsBy_pure _
  | bind first next =>
      refine (hcalls first (.inl rfl) t).bind fun r _ => ?_
      cases r with
      | failed u v => exact stopsBy_pure _
      | ok u m =>
          refine (stopsBy_lift fun e he => hraises e ⟨m, he⟩).bind fun q hq => ?_
          exact (hcalls q (.inr ⟨m, trivial, hq⟩) u).bind fun _ _ => stopsBy_pure _
  | forward slot name | follow slot name =>
      exact runTarget_stopsBy (fun hslot => hraises _ ⟨hslot, rfl⟩) fun q hq => hcalls q hq t
  | lookUp id => exact (stopsBy_lift hraises).bind fun q hq => hcalls q hq t
  | custom f => exact stopsBy_lift fun e he => hraises e ⟨t, he⟩
  | _ => exact stopsBy_pure _

end Rule

end Descent
