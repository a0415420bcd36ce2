import Descent.Proofs.Reach

namespace Descent

namespace Rule

-- Both surroundings have the same answer to what the rule asks.
def AnsweredAlike (env env' : Env) : Rule Parser → Prop
  | .forward slot _ | .follow slot _ => env.target? slot = env'.target? slot
  | .lookUp id => env.lookUp id = env'.lookUp id
  | .bind _ next => ∀ m, chosen env (next m) = chosen env' (next m)
  | _ => True

section

variable {f g : Invocation} {env env' : Env} {t : Text}

theorem runAll_congr {ps : List Parser} (h : ∀ p ∈ ps, f p = g p) :
    runAll f ps t = runAll g ps t := by
  induction ps generalizing t with
  | nil => rfl
  | cons p ps ih =>
      obtain ⟨hp, hps⟩ := List.forall_mem_cons.mp h
      rw [runAll, runAll, hp]
      refine bind_congr fun r => ?_
      cases r with
      | failed u v => rfl
      | ok u m => simp only [ih hps]

theorem runFirst_congr {ps : List Parser} (h : ∀ p ∈ ps, f p = g p) :
    runFirst f ps t = runFirst g ps t := by
  induction ps with
  | nil => rfl
  | cons p ps ih =>
      obtain ⟨hp, hps⟩ := List.forall_mem_cons.mp h
      rw [runFirst, runFirst, hp]
      refine bind_congr fun r => ?_
      cases r with
      | failed u v => exact ih hps
      | ok u m => rfl

theorem runRepeated_congr {p : Parser} (h : f p = g p) (fuel : Nat) :
    runRepeated f p fuel t = runRepeated g p fuel t := by
  induction fuel generalizing t with
  | zero => rfl
  | succ fuel ih =>
      rw [runRepeated, runRepeated, h]
      refine bind_congr fun r => ?_
      cases r with
      | failed u v => rfl
      | ok u m => simp only [ih]

theorem runTarget_congr {slot : Nat} {name : String} (htarget : env.target? slot = env'.target? slot)
    (hcalls : ∀ q, env.target? slot = some q → f q = g q) :
    runTarget f env slot name t = runTarget g env' slot name t := by
  rw [runTarget, runTarget, ← htarget]
  cases hslot : env.target? slot with
  | none => rfl
  | some q => exact congrFun (hcalls q hslot) t

-- The invocations need to be the same for those parsers only that the rule may invoke.
theorem perform_congr {rule : Rule Parser} (halike : rule.AnsweredAlike env env')
    (hcalls : ∀ q, rule.Calls env (fun _ => True) q → f q = g q) :
    perform f env rule t = perform g env' rule t := by
  cases rule with
  | sequence items reducer => simp only [perform, runAll_congr hcalls]
  | choice alternatives => exact runFirst_congr hcalls
  | attempt p => simp only [perform, hcalls p rfl]
  | maybe p => simp only [perform, hcalls p rfl]
  | many p => simp only [perform, repeated, runRepeated_congr (hcalls p rfl)]
  | many1 p => simp only [perform, repeated, runRepeated_congr (hcalls p rfl)]
  | label name p => simp only [perform, hcalls p rfl]
  | lexeme p => simp only [perform, hcalls p rfl]
  | sepBy element following =>
      simp only [perform, repeated, hcalls element (.inl rfl),
        runRepeated_congr (hcalls following (.inr rfl))]
  | bind first next =>
      simp only [perform, hcalls first (.inl rfl)]
      refine bind_congr fun r => ?_
      cases r with
      | failed u v => rfl
      | ok u m =>
          dsimp only
          rw [← halike m]
          cases hnext : chosen env (next m) with
          | error e => rfl
          | ok q =>
              have hq : f q = g q := hcalls q (.inr ⟨m, trivial, hnext⟩)
              exact congrArg (restoring t <$> ·) (congrFun hq u)
  | forward slot name => exact runTarget_congr halike hcalls
  | follow slot name => exact runTarget_congr halike hcalls
  | lookUp id =>
      have hid : env.lookUp id = env'.lookUp id := halike
      simp only [perform, ← hid]
      cases hfound : env.lookUp id with
      | error e => rfl
      | ok q => exact congrFun (hcalls q hfound) t
  | _ => rfl

end

end Rule

namespace Parser

variable {env env' : Env} {p : Parser}

theorem invoke_congr (htracing : env.tracing = env'.tracing)
    (hp : p.Throughout env (fun _ => True) (Rule.AnsweredAlike env env')) (limit : Nat) :
    p.invoke env limit = p.invoke env' limit := by
  -- What `p` may invoke in the one surroundings is all that it invokes in either.
  induction limit generalizing p with
  | zero => rfl
  | succ limit ih =>
      funext t
      have hcalls : ∀ q, p.rule.Calls env (fun _ => True) q → q.invoke env limit = q.invoke env' limit :=
        fun q hq => ih (hp.call hq)
      rw [invoke_succ, invoke_succ, htracing, Rule.perform_congr hp.here hcalls]

end Parser

end Descent
