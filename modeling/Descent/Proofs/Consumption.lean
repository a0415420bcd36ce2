import Descent.Proofs.Gives
import Descent.Proofs.Taking

namespace Descent

-- The same surroundings with every invocation put on record.
def Env.traced (env : Env) : Env :=
  { env with tracing := true }

-- A parser written by hand leaves a suffix of its text, also where it fails.
def Rule.KeepsToText : Rule Parser → Prop
  | .custom f => ∀ t r, f.apply t = .ok r → r.rest <:+ t
  | _ => True

namespace Answers

variable {answers : Answers} {p : Parser} {ps : List Parser} {t rest : Text}

theorem All.suffix {ms : List Match} (hans : ∀ p u r, answers p u r → r.rest <:+ u)
    (h : answers.All ps t (some (rest, ms))) : rest <:+ t := by
  induction ps generalizing t ms with
  | nil => cases h; exact List.suffix_refl _
  | cons p ps ih =>
      cases h with
      | next hp hps => exact (ih hps).trans (hans _ _ _ hp)

theorem Repeated.suffix {ms : List Match} (hans : ∀ u r, answers p u r → r.rest <:+ u)
    (h : answers.Repeated p t rest ms) : rest <:+ t := by
  induction h with
  | stop _ => exact List.suffix_refl _
  | idle _ => exact List.suffix_refl _
  | step hp _ _ ih => exact ih.trans (hans _ _ hp)

end Answers

namespace Rule

theorem restoring_rest_suffix {t u : Text} {r : Result} (hu : u <:+ t) (hr : r.rest <:+ u) :
    (restoring t r).rest <:+ t := by
  cases r with
  | ok rest m => exact hr.trans hu
  | failed rest v => exact List.suffix_refl t

variable {env : Env} {answers : Answers} {rule : Rule Parser} {t : Text} {r : Result}

theorem Gives.rest_suffix (h : rule.Gives env answers t r) (hrule : rule.KeepsToText)
    (hans : ∀ p u s, answers p u s → s.rest <:+ u) : r.rest <:+ t := by
  cases h with
  | char c t => exact (takeChar_takesLeaf c t).rest_suffix
  | pattern use p t => exact (takePattern_takesLeaf use p t).rest_suffix
  | symbol literal t => exact (takeSymbol_takesLeaf literal t).rest_suffix
  | whiteSpace t => exact Text.skipBlanks_suffix t
  | custom hf => exact hrule t r hf
  | sequence hall _ => exact hall.suffix hans
  | choice hfirst =>
      exact hfirst.result (·.rest <:+ t) (List.suffix_refl t) fun p u m => hans p t (.ok u m)
  | attempt hp => exact restoring_rest_suffix (List.suffix_refl t) (hans _ _ _ hp)
  | maybe hp => exact hans _ _ _ hp
  | many hs => exact hs.suffix (hans _)
  | many1 hs => exact hs.suffix (hans _)
  | sepBy he _ hs => exact (hs.suffix (hans _)).trans (hans _ _ _ he)
  | label hp =>
      have hrest := hans _ _ _ hp
      exact hrest
  | lexeme hp => exact (Text.skipBlanks_suffix _).trans (hans _ _ _ hp)
  | bind hfirst _ hp => exact restoring_rest_suffix (hans _ _ _ hfirst) (hans _ _ _ hp)
  | forward _ hp => exact hans _ _ _ hp
  | follow _ hp => exact hans _ _ _ hp
  | lookUp _ hp => exact hans _ _ _ hp
  | _ => exact List.suffix_refl t

end Rule

namespace Parser

variable {env : Env} {limit : Nat} {p : Parser} {t : Text} {r : Result}

theorem invoke_rest_suffix (hp : p.Throughout env (fun _ => True) Rule.KeepsToText)
    (h : (p.invoke env limit t).outcome = .ok r) : r.rest <:+ t :=
  invoke_induction (fun _ u s => s.rest <:+ u) (fun _ _ _ _ _ => trivial)
    (fun _ _ _ hrule hgives => hgives.rest_suffix hrule fun _ _ _ hs => hs) hp h

-- A parser that leads to nothing but one written by hand, over placeholders and ids.
inductive MerelyCustom (env : Env) : Parser → Prop
  | custom {p : Parser} {f : Custom} : p.rule = .custom f → MerelyCustom env p
  | forward {p q : Parser} {slot : Nat} {name : String} :
      p.rule = .forward slot name → env.target? slot = some q → MerelyCustom env q →
        MerelyCustom env p
  | follow {p q : Parser} {slot : Nat} {name : String} :
      p.rule = .follow slot name → env.target? slot = some q → MerelyCustom env q →
        MerelyCustom env p
  | lookUp {p q : Parser} {id : String} :
      p.rule = .lookUp id → env.lookUp id = .ok q → MerelyCustom env q → MerelyCustom env p

theorem restoring_eq_fail {s : Result} (h : (Rule.restoring t s).succeeded = false) :
    Rule.restoring t s = .fail t := by
  cases s with
  | ok rest m => cases h
  | failed rest v => rfl

-- One rule: a failure is passed on as it is only from behind a placeholder or an id.
theorem fail_of_gives {answers : Answers} (hgives : p.rule.Gives env answers t r)
    (hans : ∀ q u s, answers q u s → s.succeeded = false → ¬q.MerelyCustom env → s = .fail u)
    (hr : r.succeeded = false) (hp : ¬p.MerelyCustom env) : r = .fail t := by
  generalize hrule : p.rule = rule at hgives
  cases hgives with
  | char c t => exact (Rule.takeChar_takesLeaf c t).eq_fail hr
  | pattern use pattern t => exact (Rule.takePattern_takesLeaf use pattern t).eq_fail hr
  | symbol literal t => exact (Rule.takeSymbol_takesLeaf literal t).eq_fail hr
  | custom _ => exact absurd (.custom hrule) hp
  | choice hfirst =>
      refine hfirst.result (fun s => s.succeeded = false → s = .fail t) (fun _ => rfl) ?_ hr
      intro q u m _ hs
      cases hs
  | attempt _ => exact restoring_eq_fail hr
  | bind _ _ _ => exact restoring_eq_fail hr
  | forward hslot hq => exact hans _ _ _ hq hr fun hq' => hp (.forward hrule hslot hq')
  | follow hslot hq => exact hans _ _ _ hq hr fun hq' => hp (.follow hrule hslot hq')
  | lookUp hid hq => exact hans _ _ _ hq hr fun hq' => hp (.lookUp hrule hid hq')
  | sequenceBroken _ | many1Absent _ | labelFailed _ | lexemeFailed _ | bindFailed _ => rfl
  | _ => cases hr

theorem invoke_eq_fail (h : (p.invoke env limit t).outcome = .ok r) (hr : r.succeeded = false)
    (hp : ¬p.MerelyCustom env) : r = .fail t := by
  have hall : p.Throughout env (fun _ => True) fun _ => True := fun _ _ => trivial
  refine invoke_induction (fun q u s => s.succeeded = false → ¬q.MerelyCustom env → s = .fail u)
    ?_ ?_ hall h hr hp
  · exact fun _ _ _ _ _ => trivial
  · exact fun _ _ _ _ hgives hs hq => fail_of_gives hgives (fun _ _ _ h => h) hs hq

end Parser

namespace Run

variable {α β : Type} {t u : Text} {x : Run α} {f : α → Run β}

-- All invocations on record were given suffixes of a text.
def Within (t : Text) (x : Run α) : Prop :=
  ∀ record ∈ x.trace, record.text <:+ t

theorem Within.mono (h : x.Within u) (hu : u <:+ t) : x.Within t :=
  fun record hr => (h record hr).trans hu

theorem within_of_silent (h : x.trace = []) : x.Within t := by
  intro record hr
  simp [h] at hr

theorem Within.bind (hx : x.Within t) (hf : ∀ a, x.outcome = .ok a → (f a).Within t) :
    (x >>= f).Within t := by
  intro record hr
  rcases mem_trace_bind.mp hr with hr | ⟨a, ha, hr⟩
  · exact hx record hr
  · exact hf a ha record hr

end Run

namespace Rule

variable {invoke : Invocation} {t : Text}

-- What is asked of the parsers that a rule invokes.
def Narrows (invoke : Invocation) (p : Parser) : Prop :=
  ∀ u, (invoke p u).Within u ∧ ∀ r, (invoke p u).outcome = .ok r → r.rest <:+ u

theorem runAll_within {ps : List Parser} (h : ∀ p ∈ ps, Narrows invoke p) :
    (runAll invoke ps t).Within t := by
  induction ps generalizing t with
  | nil => exact Run.within_of_silent rfl
  | cons p ps ih =>
      have hp := h p (by simp)
      refine (hp t).1.bind fun r hr => ?_
      cases r with
      | failed u v => exact Run.within_of_silent rfl
      | ok u m =>
          have hu := (hp t).2 _ hr
          refine ((ih fun q hq => h q (by simp [hq])).mono hu).bind fun o _ => ?_
          cases o <;> exact Run.within_of_silent rfl

theorem runFirst_within {ps : List Parser} (h : ∀ p ∈ ps, Narrows invoke p) :
    (runFirst invoke ps t).Within t := by
  induction ps with
  | nil => exact Run.within_of_silent rfl
  | cons p ps ih =>
      refine (h p (by simp) t).1.bind fun r _ => ?_
      cases r with
      | failed u v => exact ih fun q hq => h q (by simp [hq])
      | ok u m => exact Run.within_of_silent rfl

theorem runRepeated_within {p : Parser} (hp : Narrows invoke p) (fuel : Nat) :
    (runRepeated invoke p fuel t).Within t := by
  induction fuel generalizing t with
  | zero => exact Run.within_of_silent rfl
  | succ fuel ih =>
      refine (hp t).1.bind fun r hr => ?_
      cases r with
      | failed u v => exact Run.within_of_silent rfl
      | ok u m =>
          have hu := (hp t).2 _ hr
          by_cases hidle : u = t
          · simp only [hidle, if_true]
            exact Run.within_of_silent rfl
          · simp only [hidle, if_false]
            exact (ih.mono hu).bind fun _ _ => Run.within_of_silent rfl

theorem runTarget_within {env : Env} {slot : Nat} {name : String}
    (h : ∀ p, env.target? slot = some p → Narrows invoke p) :
    (runTarget invoke env slot name t).Within t := by
  unfold runTarget
  cases ht : env.target? slot with
  | none => exact Run.within_of_silent rfl
  | some p => exact (h p ht t).1

theorem perform_within {env : Env} {rule : Rule Parser}
    (h : ∀ p, rule.Calls env (fun _ => True) p → Narrows invoke p) :
    (perform invoke env rule t).Within t := by
  cases rule with
  | choice alternatives => exact runFirst_within h
  | forward slot name => exact runTarget_within h
  | follow slot name => exact runTarget_within h
  | sequence items reducer =>
      refine (runAll_within h).bind fun o _ => ?_
      rcases o with _ | ⟨rest, ms⟩
      · exact Run.within_of_silent rfl
      · exact (Run.within_of_silent rfl).bind fun _ _ => Run.within_of_silent rfl
  | attempt p => exact (h p rfl t).1.bind fun _ _ => Run.within_of_silent rfl
  | maybe p =>
      refine (h p rfl t).1.bind fun r _ => ?_
      cases r <;> exact Run.within_of_silent rfl
  | label name p =>
      refine (h p rfl t).1.bind fun r _ => ?_
      cases r <;> exact Run.within_of_silent rfl
  | lexeme p =>
      refine (h p rfl t).1.bind fun r _ => ?_
      cases r <;> exact Run.within_of_silent rfl
  | many p => exact (runRepeated_within (h p rfl) _).bind fun _ _ => Run.within_of_silent rfl
  | many1 p =>
      refine (runRepeated_within (h p rfl) _).bind fun a _ => ?_
      obtain ⟨rest, ms⟩ := a
      cases ms <;> exact Run.within_of_silent rfl
  | sepBy element following =>
      have he := h element (.inl rfl)
      refine (he t).1.bind fun r hr => ?_
      cases r with
      | failed u v => exact Run.within_of_silent rfl
      | ok u m =>
          have hu := (he t).2 _ hr
          by_cases hidle : u = t
          · simp only [hidle, if_true]
            exact Run.within_of_silent rfl
          · simp only [hidle, if_false]
            exact ((runRepeated_within (h following (.inr rfl)) _).mono hu).bind
              fun _ _ => Run.within_of_silent rfl
  | bind first next =>
      have hfirst := h first (.inl rfl)
      refine (hfirst t).1.bind fun r hr => ?_
      cases r with
      | failed u v => exact Run.within_of_silent rfl
      | ok u m =>
          have hu := (hfirst t).2 _ hr
          refine (Run.within_of_silent rfl).bind fun p hp => ?_
          have hnext := h p (.inr ⟨m, trivial, hp⟩)
          exact ((hnext u).1.mono hu).bind fun _ _ => Run.within_of_silent rfl
  | lookUp id =>
      refine (Run.within_of_silent rfl).bind fun p hp => ?_
      exact (h p hp t).1
  | _ => exact Run.within_of_silent rfl

end Rule

namespace Parser

variable {env : Env} {limit : Nat} {p : Parser} {t : Text} {r : Result}

theorem invoke_within (hp : p.Throughout env (fun _ => True) Rule.KeepsToText) :
    (p.invoke env limit t).Within t := by
  induction limit generalizing p t with
  | zero => exact Run.within_of_silent rfl
  | succ limit ih =>
      rw [invoke_succ]
      refine (Rule.perform_within fun q hq => ?_).bind fun r _ => ?_
      · exact fun u => ⟨ih (hp.call hq), fun s hs => invoke_rest_suffix (hp.call hq) hs⟩
      · cases env.tracing with
        | false => exact Run.within_of_silent rfl
        | true =>
            intro record hr
            obtain rfl := List.mem_singleton.mp hr
            exact List.suffix_refl t

-- Parsers written by hand are only asked to leave some suffix; what the combinators make of them
-- keeps the stronger rule.
theorem invoke_keeps_to_text (hp : p.Throughout env (fun _ => True) Rule.KeepsToText)
    (h : (p.invoke env limit t).outcome = .ok r) :
    r.rest <:+ t ∧
      (∀ record ∈ (p.invoke env.traced limit t).trace, record.text <:+ t) ∧
      (r.succeeded = false → ¬p.MerelyCustom env → r = .fail t) := by
  have htraced : p.Throughout env.traced (fun _ => True) Rule.KeepsToText := hp
  exact ⟨invoke_rest_suffix hp h, invoke_within htraced, invoke_eq_fail h⟩

-- A rule that comes back to itself behind every `a`. At the end stands a parser that fails behind the
-- character it looked at.
def relay : Parser :=
  forward 0 "relay"

def relayRule : Parser :=
  choice [sequence [char 'a', relay] .all, custom .sloppy "sloppy"]

def relayEnv : Env :=
  .ofTargets [relayRule]

theorem relay_throughout : relay.Throughout relayEnv (fun _ => True) Rule.KeepsToText := by
  let again := sequence [char 'a', relay] .all
  let last := custom .sloppy "sloppy"
  refine throughout_of_closed [relay, relayRule, again, char 'a', last] (by simp) ?_ ?_
  · have hsloppy : ∀ t r, Custom.sloppy.apply t = .ok r → r.rest <:+ t := by
      rintro t r ⟨⟩
      exact List.drop_suffix 1 t
    simp only [List.forall_mem_cons]
    exact ⟨trivial, trivial, trivial, trivial, hsloppy, by simp⟩
  · simp only [List.forall_mem_cons]
    have hrule : [again, last] ⊆ [relay, relayRule, again, char 'a', last] := by simp
    have hagain : [char 'a', relay] ⊆ [relay, relayRule, again, char 'a', last] := by simp
    refine ⟨?_, fun r hr => hrule hr, fun r hr => hagain hr, fun _ hr => hr.elim,
      fun _ hr => hr.elim, by simp⟩
    rintro r ⟨⟩
    simp

theorem invoke_keeps_to_text_relay :
    (relay.invoke relayEnv 20 ['a', 'a', 'b']).outcome = .ok (.fail ['a', 'a', 'b']) ∧
      (Result.fail ['a', 'a', 'b']).rest <:+ ['a', 'a', 'b'] ∧
      (∀ record ∈ (relay.invoke relayEnv.traced 20 ['a', 'a', 'b']).trace,
        record.text <:+ ['a', 'a', 'b']) ∧
      ((Result.fail ['a', 'a', 'b']).succeeded = false → ¬relay.MerelyCustom relayEnv →
        Result.fail ['a', 'a', 'b'] = .fail ['a', 'a', 'b']) :=
  ⟨rfl, invoke_keeps_to_text relay_throughout rfl⟩

end Parser

end Descent
