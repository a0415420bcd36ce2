import Descent.Proofs.Gives
import Descent.Proofs.Heads
import Descent.Proofs.Limit

namespace Descent

namespace Run

variable {α β : Type}

-- Runs under rising limits. None is contradicted by those above it, and some is not cut off; the
-- faults it may end with are admitted.
structure Ends (admitted : Fault → Prop) (x : Nat → Run α) : Prop where
  rising : ∀ m n, m ≤ n → (x m).UpTo (x n)
  halts : ∃ n, ∀ e, (x n).outcome = .error e → admitted e

variable {admitted : Fault → Prop} {x : Nat → Run α} {f : Nat → α → Run β}

theorem ends_lift {y : Except Fault α} (h : ∀ e, y = .error e → admitted e) :
    Ends admitted fun _ => lift y :=
  ⟨fun _ _ _ => .refl _, 0, h⟩

theorem ends_pure (a : α) : Ends admitted fun _ => pure a :=
  ends_lift (y := .ok a) (by simp)

-- From some limit on nothing changes.
theorem Ends.settled (hcut : ¬admitted .nestingExceeded) (h : Ends admitted x) :
    ∃ n, (∀ e, (x n).outcome = .error e → admitted e) ∧ ∀ k, n ≤ k → x k = x n := by
  obtain ⟨n, hn⟩ := h.halts
  refine ⟨n, hn, fun k hk => ?_⟩
  exact ((h.rising n k hk).eq fun hx => hcut (hn _ hx)).symm

theorem Ends.bind (hcut : ¬admitted .nestingExceeded) (h : Ends admitted x)
    (hf : ∀ n a, (x n).outcome = .ok a → Ends admitted fun k => f k a) :
    Ends admitted fun n => x n >>= f n where
  rising m n hmn := (h.rising m n hmn).bind fun a ha => (hf m a ha).rising m n hmn
  halts := by
    obtain ⟨n, hn, hstable⟩ := h.settled hcut
    cases hx : (x n).outcome with
    | error e =>
        refine ⟨n, fun e' he => hn e' ?_⟩
        rw [bind_of_error _ hx] at he
        cases he
        exact hx
    | ok a =>
        obtain ⟨k, hk, hnext⟩ := (hf n a hx).settled hcut
        have hmax : (x (max n k)).outcome = .ok a := by rw [hstable _ (Nat.le_max_left n k), hx]
        refine ⟨max n k, fun e he => hk e ?_⟩
        rw [bind_of_ok _ hmax] at he
        rwa [← hnext _ (Nat.le_max_right n k)]

end Run

-- A parser comes to an end on a text.
def Parser.EndsOn (env : Env) (admitted : Fault → Prop) (p : Parser) (t : Text) : Prop :=
  Run.Ends admitted fun limit => p.invoke env limit t

theorem Answers.All.length_eq {answers : Answers} {ps : List Parser} {t rest : Text}
    {ms : List Match} (h : answers.All ps t (some (rest, ms))) : ms.length = ps.length := by
  induction ps generalizing t ms with
  | nil => cases h; rfl
  | cons p ps ih =>
      cases h with
      | next _ hps => simp [ih hps]

namespace Rule

open Run (ends_pure ends_lift)

-- What the end of a rule on a text rests upon. `heads` is asked of the parsers that may be invoked
-- on the whole of the text, and `shorter` of all that may be invoked behind its beginning.
structure Supported (env : Env) (admitted : Fault → Prop) (mayStay : Parser → Prop)
    (rule : Rule Parser) (t : Text) : Prop where
  raises : ∀ e, rule.Raises env e → admitted e
  suffix : ∀ q, rule.Calls env (fun _ => True) q → ∀ limit u rest m,
    (q.invoke env limit u).outcome = .ok (.ok rest m) → rest <:+ u
  stays : ∀ q, rule.Calls env (fun _ => True) q → ∀ limit u m,
    (q.invoke env limit u).outcome = .ok (.ok u m) → mayStay q
  opened : ∀ q, rule.Opens mayStay q → q.EndsOn env admitted t
  continued : ∀ q, rule.Continues env q → q.EndsOn env admitted t
  referred : ∀ ref q, rule.reference? = some ref → env.body? ref = some q →
    q.EndsOn env admitted t
  shorter : ∀ q, rule.Calls env (fun _ => True) q → ∀ u, u.length < t.length →
    q.EndsOn env admitted u

variable {env : Env} {admitted : Fault → Prop} {mayStay : Parser → Prop} {p : Parser}
  {ps : List Parser} {t : Text}

theorem runAll_ends_behind (hcut : ¬admitted .nestingExceeded)
    (hsuffix : ∀ p ∈ ps, ∀ limit u rest m,
      (p.invoke env limit u).outcome = .ok (.ok rest m) → rest <:+ u)
    (hends : ∀ p ∈ ps, ∀ u, u.length ≤ t.length → p.EndsOn env admitted u) :
    Run.Ends admitted fun limit => runAll (Parser.invoke env limit) ps t := by
  induction ps generalizing t with
  | nil => exact ends_pure _
  | cons p ps ih =>
      refine (hends p (by simp) t (Nat.le_refl _)).bind hcut fun n r hr => ?_
      cases r with
      | failed u v => exact ends_pure _
      | ok u m =>
          have hu := (hsuffix p (by simp) n t u m hr).length_le
          have hrest := ih (t := u) (fun q hq => hsuffix q (by simp [hq]))
            fun q hq w hw => hends q (by simp [hq]) w (by omega)
          refine hrest.bind hcut fun _ o _ => ?_
          cases o <;> exact ends_pure _

-- As long as nothing has been taken, the items so far are such as may stay.
theorem runAll_ends (hcut : ¬admitted .nestingExceeded)
    (hsuffix : ∀ p ∈ ps, ∀ limit u rest m,
      (p.invoke env limit u).outcome = .ok (.ok rest m) → rest <:+ u)
    (hstays : ∀ p ∈ ps, ∀ limit u m,
      (p.invoke env limit u).outcome = .ok (.ok u m) → mayStay p)
    (hopened : ∀ before p after, ps = before ++ p :: after → (∀ q ∈ before, mayStay q) →
      p.EndsOn env admitted t)
    (hshorter : ∀ p ∈ ps, ∀ u, u.length < t.length → p.EndsOn env admitted u) :
    Run.Ends admitted fun limit => runAll (Parser.invoke env limit) ps t := by
  induction ps with
  | nil => exact ends_pure _
  | cons p ps ih =>
      refine (hopened [] p ps rfl (by simp)).bind hcut fun n r hr => ?_
      cases r with
      | failed u v => exact ends_pure _
      | ok u m =>
          have hrest : Run.Ends admitted fun limit => runAll (Parser.invoke env limit) ps u := by
            by_cases hidle : u = t
            · subst u
              have hp := hstays p (by simp) n t m hr
              refine ih (fun q hq => hsuffix q (by simp [hq])) (fun q hq => hstays q (by simp [hq]))
                (fun before q after hps hbefore => ?_) (fun q hq => hshorter q (by simp [hq]))
              exact hopened (p :: before) q after (by simp [hps])
                (List.forall_mem_cons.mpr ⟨hp, hbefore⟩)
            · have hu := Text.length_lt_of_suffix (hsuffix p (by simp) n t u m hr) hidle
              exact runAll_ends_behind hcut (fun q hq => hsuffix q (by simp [hq]))
                fun q hq w hw => hshorter q (by simp [hq]) w (by omega)
          refine hrest.bind hcut fun _ o _ => ?_
          cases o <;> exact ends_pure _

theorem runFirst_ends (hcut : ¬admitted .nestingExceeded)
    (hends : ∀ p ∈ ps, p.EndsOn env admitted t) :
    Run.Ends admitted fun limit => runFirst (Parser.invoke env limit) ps t := by
  induction ps with
  | nil => exact ends_pure _
  | cons p ps ih =>
      refine (hends p (by simp)).bind hcut fun n r _ => ?_
      cases r with
      | failed u v => exact ih fun q hq => hends q (by simp [hq])
      | ok u m => exact ends_pure _

-- Every round but the last takes a character, so that the rounds allowed are never used up.
theorem runRepeated_ends (hcut : ¬admitted .nestingExceeded)
    (hsuffix : ∀ limit u rest m, (p.invoke env limit u).outcome = .ok (.ok rest m) → rest <:+ u)
    {fuel : Nat} (hfuel : t.length < fuel) (hhere : p.EndsOn env admitted t)
    (hshorter : ∀ u, u.length < t.length → p.EndsOn env admitted u) :
    Run.Ends admitted fun limit => runRepeated (Parser.invoke env limit) p fuel t := by
  induction fuel generalizing t with
  | zero => omega
  | succ fuel ih =>
      refine hhere.bind hcut fun n r hr => ?_
      cases r with
      | failed u v => exact ends_pure _
      | ok u m =>
          by_cases hidle : u = t
          · simp only [hidle, if_true]
            exact ends_pure _
          · simp only [hidle, if_false]
            have hu := Text.length_lt_of_suffix (hsuffix n t u m hr) hidle
            have hrest := ih (t := u) (by omega) (hshorter u hu) fun w hw => hshorter w (by omega)
            exact hrest.bind hcut fun _ _ _ => ends_pure _

theorem repeated_ends (hcut : ¬admitted .nestingExceeded)
    (hsuffix : ∀ limit u rest m, (p.invoke env limit u).outcome = .ok (.ok rest m) → rest <:+ u)
    (hhere : p.EndsOn env admitted t)
    (hshorter : ∀ u, u.length < t.length → p.EndsOn env admitted u) :
    Run.Ends admitted fun limit => repeated (Parser.invoke env limit) p t :=
  runRepeated_ends hcut hsuffix (by unfold roundsFor; omega) hhere hshorter

theorem runTarget_ends {slot : Nat} {name : String}
    (hundefined : env.target? slot = none → admitted (.mistake (.forwardUndefined name)))
    (hdefined : ∀ q, env.target? slot = some q → q.EndsOn env admitted t) :
    Run.Ends admitted fun limit => runTarget (Parser.invoke env limit) env slot name t := by
  unfold runTarget
  cases hslot : env.target? slot with
  | none => exact ends_lift fun e he => Except.error.inj he ▸ hundefined hslot
  | some q => exact hdefined q hslot

theorem perform_ends {rule : Rule Parser} (hcut : ¬admitted .nestingExceeded)
    (h : rule.Supported env admitted mayStay t) :
    Run.Ends admitted fun limit => perform (Parser.invoke env limit) env rule t := by
  cases rule with
  | char c => exact ends_pure _
  | pattern use p => exact ends_pure _
  | symbol literal => exact ends_pure _
  | whiteSpace => exact ends_pure _
  | succeed m => exact ends_pure _
  | custom f => exact ends_lift fun e he => h.raises e ⟨t, he⟩
  | choice alternatives => exact runFirst_ends hcut h.opened
  | sequence items reducer =>
      have hitems := runAll_ends hcut h.suffix h.stays
        (fun before q after hps hbefore => h.opened q ⟨before, after, hps, hbefore⟩) h.shorter
      refine hitems.bind hcut fun n o ho => ?_
      rcases o with _ | ⟨rest, ms⟩
      · exact ends_pure _
      · refine (ends_lift fun e he => ?_).bind hcut fun _ _ _ => ends_pure _
        exact h.raises e ⟨ms, (all_of_runAll ho).length_eq, he⟩
  | attempt p => exact (h.opened p rfl).bind hcut fun _ _ _ => ends_pure _
  | maybe p =>
      refine (h.opened p rfl).bind hcut fun _ r _ => ?_
      cases r <;> exact ends_pure _
  | label name p =>
      refine (h.opened p rfl).bind hcut fun _ r _ => ?_
      cases r <;> exact ends_pure _
  | lexeme p =>
      refine (h.opened p rfl).bind hcut fun _ r _ => ?_
      cases r <;> exact ends_pure _
  | many p =>
      have hrounds := repeated_ends hcut (h.suffix p rfl) (h.opened p rfl) (h.shorter p rfl)
      exact hrounds.bind hcut fun _ _ _ => ends_pure _
  | many1 p =>
      have hrounds := repeated_ends hcut (h.suffix p rfl) (h.opened p rfl) (h.shorter p rfl)
      refine hrounds.bind hcut fun _ a _ => ?_
      obtain ⟨rest, ms⟩ := a
      cases ms <;> exact ends_pure _
  | sepBy element following =>
      refine (h.opened element rfl).bind hcut fun n r hr => ?_
      cases r with
      | failed u v => exact ends_pure _
      | ok u m =>
          by_cases hidle : u = t
          · simp only [hidle, if_true]
            exact ends_pure _
          · simp only [hidle, if_false]
            have hu := Text.length_lt_of_suffix (h.suffix element (.inl rfl) n t u m hr) hidle
            have hfollowing := h.shorter following (.inr rfl)
            have hrounds := repeated_ends hcut (h.suffix following (.inr rfl)) (hfollowing u hu)
              fun w hw => hfollowing w (by omega)
            exact hrounds.bind hcut fun _ _ _ => ends_pure _
  | bind first next =>
      refine (h.opened first rfl).bind hcut fun n r hr => ?_
      cases r with
      | failed u v => exact ends_pure _
      | ok u m =>
          refine (ends_lift fun e he => h.raises e ⟨m, he⟩).bind hcut fun _ q hq => ?_
          have hnext : q.EndsOn env admitted u := by
            by_cases hidle : u = t
            · exact hidle ▸ h.continued q ⟨m, hq⟩
            · have hu := Text.length_lt_of_suffix (h.suffix first (.inl rfl) n t u m hr) hidle
              exact h.shorter q (.inr ⟨m, trivial, hq⟩) u hu
          exact hnext.bind hcut fun _ _ _ => ends_pure _
  | forward slot name =>
      exact runTarget_ends (fun hslot => h.raises _ ⟨hslot, rfl⟩) (h.referred (.slot slot) · rfl)
  | follow slot name =>
      exact runTarget_ends (fun hslot => h.raises _ ⟨hslot, rfl⟩) (h.referred (.slot slot) · rfl)
  | lookUp id =>
      refine (ends_lift fun e he => h.raises e he).bind hcut fun _ q hq => ?_
      refine h.referred (.id id) q rfl ?_
      have hfound : env.lookUp id = .ok q := hq
      simp [Env.body?, hfound, Except.toOption]

end Rule

end Descent
