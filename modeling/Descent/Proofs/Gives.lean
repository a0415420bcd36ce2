import Descent.Proofs.Reach

namespace Descent

-- Which results parsers give on which texts.
abbrev Answers := Parser → Text → Result → Prop

namespace Answers

-- One parser after another on what is left. Nothing comes of it once one of them fails.
inductive All (answers : Answers) : List Parser → Text → Option (Text × List Match) → Prop
  | done (t : Text) : All answers [] t (some (t, []))
  | failed {p : Parser} {ps : List Parser} {t u : Text} {v : Match} :
      answers p t (.failed u v) → All answers (p :: ps) t none
  | broken {p : Parser} {ps : List Parser} {t u : Text} {m : Match} :
      answers p t (.ok u m) → All answers ps u none → All answers (p :: ps) t none
  | next {p : Parser} {ps : List Parser} {t u last : Text} {m : Match} {ms : List Match} :
      answers p t (.ok u m) → All answers ps u (some (last, ms)) →
        All answers (p :: ps) t (some (last, m :: ms))

-- The first success on the same text.
inductive First (answers : Answers) : List Parser → Text → Result → Prop
  | none (t : Text) : First answers [] t (.fail t)
  | here {p : Parser} {ps : List Parser} {t u : Text} {m : Match} :
      answers p t (.ok u m) → First answers (p :: ps) t (.ok u m)
  | later {p : Parser} {ps : List Parser} {t u : Text} {v : Match} {r : Result} :
      answers p t (.failed u v) → First answers ps t r → First answers (p :: ps) t r

-- Rounds of one parser. Only the last of them can leave its text as it was.
inductive Repeated (answers : Answers) (p : Parser) : Text → Text → List Match → Prop
  | stop {t u : Text} {v : Match} : answers p t (.failed u v) → Repeated answers p t t []
  | idle {t : Text} {m : Match} : answers p t (.ok t m) → Repeated answers p t t [m]
  | step {t u last : Text} {m : Match} {ms : List Match} :
      answers p t (.ok u m) → u ≠ t → Repeated answers p u last ms →
        Repeated answers p t last (m :: ms)

variable {answers others : Answers} {p : Parser} {ps : List Parser} {t last : Text} {r : Result}

theorem All.mono {o : Option (Text × List Match)} (h : answers.All ps t o)
    (himp : ∀ p ∈ ps, ∀ t r, answers p t r → others p t r) : others.All ps t o := by
  induction h with
  | done t => exact .done t
  | failed hp => exact .failed (himp _ (by simp) _ _ hp)
  | broken hp _ ih => exact .broken (himp _ (by simp) _ _ hp) (ih fun q hq => himp q (by simp [hq]))
  | next hp _ ih => exact .next (himp _ (by simp) _ _ hp) (ih fun q hq => himp q (by simp [hq]))

theorem First.mono (h : answers.First ps t r)
    (himp : ∀ p ∈ ps, ∀ t r, answers p t r → others p t r) : others.First ps t r := by
  induction h with
  | none t => exact .none t
  | here hp => exact .here (himp _ (by simp) _ _ hp)
  | later hp _ ih => exact .later (himp _ (by simp) _ _ hp) (ih fun q hq => himp q (by simp [hq]))

-- What holds of each success, and of a failure that leaves the text alone, holds of a choice.
theorem First.result (h : answers.First ps t r) (good : Result → Prop) (hfail : good (.fail t))
    (hok : ∀ p u m, answers p t (.ok u m) → good (.ok u m)) : good r := by
  induction h with
  | none t => exact hfail
  | here hp => exact hok _ _ _ hp
  | later _ _ ih => exact ih hfail hok

theorem Repeated.mono {ms : List Match} (h : answers.Repeated p t last ms)
    (himp : ∀ t r, answers p t r → others p t r) : others.Repeated p t last ms := by
  induction h with
  | stop hp => exact .stop (himp _ _ hp)
  | idle hp => exact .idle (himp _ _ hp)
  | step hp hmoved _ ih => exact .step (himp _ _ hp) hmoved ih

-- What comes of invocations.
def of (invoke : Invocation) : Answers :=
  fun p t r => (invoke p t).outcome = .ok r

end Answers

namespace Rule

inductive Gives (env : Env) (answers : Answers) : Rule Parser → Text → Result → Prop
  | char (c : Char) (t : Text) : Gives env answers (.char c) t (takeChar c t)
  | pattern (use : PatternUse) (p : Pattern) (t : Text) :
      Gives env answers (.pattern use p) t (takePattern use p t)
  | symbol (literal t : Text) : Gives env answers (.symbol literal) t (takeSymbol literal t)
  | whiteSpace (t : Text) : Gives env answers .whiteSpace t (.ok (Text.skipBlanks t) .empty)
  | sequence {items : List Parser} {reducer : Reducer} {t rest : Text} {ms : List Match}
      {m : Match} :
      answers.All items t (some (rest, ms)) → reducer.apply ms = .ok m →
        Gives env answers (.sequence items reducer) t (.ok rest m)
  | sequenceBroken {items : List Parser} {reducer : Reducer} {t : Text} :
      answers.All items t none → Gives env answers (.sequence items reducer) t (.fail t)
  | choice {alternatives : List Parser} {t : Text} {r : Result} :
      answers.First alternatives t r → Gives env answers (.choice alternatives) t r
  | attempt {p : Parser} {t : Text} {r : Result} :
      answers p t r → Gives env answers (.attempt p) t (restoring t r)
  | maybe {p : Parser} {t rest : Text} {m : Match} :
      answers p t (.ok rest m) → Gives env answers (.maybe p) t (.ok rest m)
  | maybeAbsent {p : Parser} {t u : Text} {v : Match} :
      answers p t (.failed u v) → Gives env answers (.maybe p) t (.ok t .empty)
  | many {p : Parser} {t rest : Text} {ms : List Match} :
      answers.Repeated p t rest ms → Gives env answers (.many p) t (.ok rest (.seq ms))
  | many1 {p : Parser} {t rest : Text} {m : Match} {ms : List Match} :
      answers.Repeated p t rest (m :: ms) →
        Gives env answers (.many1 p) t (.ok rest (.seq (m :: ms)))
  | many1Absent {p : Parser} {t rest : Text} :
      answers.Repeated p t rest [] → Gives env answers (.many1 p) t (.fail t)
  | sepBy {element following : Parser} {t u rest : Text} {m : Match} {ms : List Match} :
      answers element t (.ok u m) → u ≠ t → answers.Repeated following u rest ms →
        Gives env answers (.sepBy element following) t (.ok rest (.seq (m :: ms)))
  | sepByIdle {element following : Parser} {t : Text} {m : Match} :
      answers element t (.ok t m) →
        Gives env answers (.sepBy element following) t (.ok t (.seq [m]))
  | sepByAbsent {element following : Parser} {t u : Text} {v : Match} :
      answers element t (.failed u v) →
        Gives env answers (.sepBy element following) t (.ok t (.seq []))
  | label {name : String} {p : Parser} {t rest : Text} {m : Match} :
      answers p t (.ok rest m) → Gives env answers (.label name p) t (.ok rest (.labeled name m))
  | labelFailed {name : String} {p : Parser} {t u : Text} {v : Match} :
      answers p t (.failed u v) → Gives env answers (.label name p) t (.fail t)
  | lexeme {p : Parser} {t rest : Text} {m : Match} :
      answers p t (.ok rest m) → Gives env answers (.lexeme p) t (.ok (Text.skipBlanks rest) m)
  | lexemeFailed {p : Parser} {t u : Text} {v : Match} :
      answers p t (.failed u v) → Gives env answers (.lexeme p) t (.fail t)
  | bind {first p : Parser} {next : Match → Next Parser} {t u : Text} {m : Match} {r : Result} :
      answers first t (.ok u m) → chosen env (next m) = .ok p → answers p u r →
        Gives env answers (.bind first next) t (restoring t r)
  | bindFailed {first : Parser} {next : Match → Next Parser} {t u : Text} {v : Match} :
      answers first t (.failed u v) → Gives env answers (.bind first next) t (.fail t)
  | succeed (m : Match) (t : Text) : Gives env answers (.succeed m) t (.ok t m)
  | forward {slot : Nat} {name : String} {p : Parser} {t : Text} {r : Result} :
      env.target? slot = some p → answers p t r → Gives env answers (.forward slot name) t r
  | follow {slot : Nat} {name : String} {p : Parser} {t : Text} {r : Result} :
      env.target? slot = some p → answers p t r → Gives env answers (.follow slot name) t r
  | lookUp {id : String} {p : Parser} {t : Text} {r : Result} :
      env.lookUp id = .ok p → answers p t r → Gives env answers (.lookUp id) t r
  | custom {f : Custom} {t : Text} {r : Result} :
      f.apply t = .ok r → Gives env answers (.custom f) t r

variable {invoke : Invocation}

theorem all_of_runAll {ps : List Parser} {t : Text} {o : Option (Text × List Match)}
    (h : (runAll invoke ps t).outcome = .ok o) : (Answers.of invoke).All ps t o := by
  induction ps generalizing t o with
  | nil =>
      simp only [runAll, Run.outcome_pure, Except.ok.injEq] at h
      exact h ▸ .done t
  | cons p ps ih =>
      obtain ⟨r, hr, h⟩ := Run.outcome_bind_eq_ok.mp h
      cases r with
      | failed u v =>
          simp only [Run.outcome_pure, Except.ok.injEq] at h
          exact h ▸ .failed hr
      | ok u m =>
          obtain ⟨o', ho, h⟩ := Run.outcome_bind_eq_ok.mp h
          rcases o' with _ | ⟨last, ms⟩
          · simp only [Run.outcome_pure, Except.ok.injEq] at h
            exact h ▸ .broken hr (ih ho)
          · simp only [Run.outcome_pure, Except.ok.injEq] at h
            exact h ▸ .next hr (ih ho)

theorem first_of_runFirst {ps : List Parser} {t : Text} {r : Result}
    (h : (runFirst invoke ps t).outcome = .ok r) : (Answers.of invoke).First ps t r := by
  induction ps with
  | nil =>
      simp only [runFirst, Run.outcome_pure, Except.ok.injEq] at h
      exact h ▸ .none t
  | cons p ps ih =>
      obtain ⟨s, hs, h⟩ := Run.outcome_bind_eq_ok.mp h
      cases s with
      | failed u v => exact .later hs (ih h)
      | ok u m =>
          simp only [Run.outcome_pure, Except.ok.injEq] at h
          exact h ▸ .here hs

theorem repeated_of_runRepeated {p : Parser} {fuel : Nat} {t last : Text} {ms : List Match}
    (h : (runRepeated invoke p fuel t).outcome = .ok (last, ms)) :
    (Answers.of invoke).Repeated p t last ms := by
  induction fuel generalizing t last ms with
  | zero => simp [runRepeated] at h
  | succ fuel ih =>
      obtain ⟨r, hr, h⟩ := Run.outcome_bind_eq_ok.mp h
      cases r with
      | failed u v =>
          simp only [Run.outcome_pure, Except.ok.injEq, Prod.mk.injEq] at h
          obtain ⟨rfl, rfl⟩ := h
          exact .stop hr
      | ok u m =>
          dsimp only at h
          split at h
          · rename_i hidle
            subst u
            simp only [Run.outcome_pure, Except.ok.injEq, Prod.mk.injEq] at h
            obtain ⟨rfl, rfl⟩ := h
            exact .idle hr
          · rename_i hmoved
            obtain ⟨⟨u', ms'⟩, hrest, h⟩ := Run.outcome_bind_eq_ok.mp h
            simp only [Run.outcome_pure, Except.ok.injEq, Prod.mk.injEq] at h
            obtain ⟨rfl, rfl⟩ := h
            exact .step hr hmoved (ih hrest)

theorem target_of_runTarget {env : Env} {slot : Nat} {name : String} {t : Text} {r : Result}
    (h : (runTarget invoke env slot name t).outcome = .ok r) :
    ∃ p, env.target? slot = some p ∧ (invoke p t).outcome = .ok r := by
  unfold runTarget at h
  cases ht : env.target? slot with
  | none => simp [ht] at h
  | some p => exact ⟨p, rfl, by simpa [ht] using h⟩

-- The one place where the rules are taken apart.
theorem gives_of_perform {env : Env} {rule : Rule Parser} {t : Text} {r : Result}
    (h : (perform invoke env rule t).outcome = .ok r) :
    rule.Gives env (Answers.of invoke) t r := by
  cases rule with
  | char c => cases h; exact .char c t
  | pattern use p => cases h; exact .pattern use p t
  | symbol literal => cases h; exact .symbol literal t
  | whiteSpace => cases h; exact .whiteSpace t
  | succeed m => cases h; exact .succeed m t
  | custom f => exact .custom h
  | choice alternatives => exact .choice (first_of_runFirst h)
  | forward slot name =>
      obtain ⟨p, hp, hr⟩ := target_of_runTarget h
      exact .forward hp hr
  | follow slot name =>
      obtain ⟨p, hp, hr⟩ := target_of_runTarget h
      exact .follow hp hr
  | lookUp id =>
      obtain ⟨p, hp, hr⟩ := Run.outcome_bind_eq_ok.mp h
      exact .lookUp hp hr
  | attempt p =>
      obtain ⟨s, hs, h⟩ := Run.outcome_bind_eq_ok.mp h
      cases h
      exact .attempt hs
  | sequence items reducer =>
      obtain ⟨o, ho, h⟩ := Run.outcome_bind_eq_ok.mp h
      rcases o with _ | ⟨rest, ms⟩
      · cases h
        exact .sequenceBroken (all_of_runAll ho)
      · obtain ⟨m, hm, h⟩ := Run.outcome_bind_eq_ok.mp h
        cases h
        exact .sequence (all_of_runAll ho) hm
  | many p =>
      obtain ⟨⟨rest, ms⟩, hs, h⟩ := Run.outcome_bind_eq_ok.mp h
      cases h
      exact .many (repeated_of_runRepeated hs)
  | many1 p =>
      obtain ⟨⟨rest, ms⟩, hs, h⟩ := Run.outcome_bind_eq_ok.mp h
      cases ms <;> cases h
      · exact .many1Absent (repeated_of_runRepeated hs)
      · exact .many1 (repeated_of_runRepeated hs)
  | maybe p =>
      obtain ⟨s, hs, h⟩ := Run.outcome_bind_eq_ok.mp h
      cases s <;> cases h
      · exact .maybe hs
      · exact .maybeAbsent hs
  | label name p =>
      obtain ⟨s, hs, h⟩ := Run.outcome_bind_eq_ok.mp h
      cases s <;> cases h
      · exact .label hs
      · exact .labelFailed hs
  | lexeme p =>
      obtain ⟨s, hs, h⟩ := Run.outcome_bind_eq_ok.mp h
      cases s <;> cases h
      · exact .lexeme hs
      · exact .lexemeFailed hs
  | bind first next =>
      obtain ⟨s, hs, h⟩ := Run.outcome_bind_eq_ok.mp h
      cases s with
      | failed u v => cases h; exact .bindFailed hs
      | ok u m =>
          obtain ⟨p, hp, h⟩ := Run.outcome_bind_eq_ok.mp h
          obtain ⟨s', hs', h⟩ := Run.outcome_bind_eq_ok.mp h
          cases h
          exact .bind hs hp hs'
  | sepBy element following =>
      obtain ⟨s, hs, h⟩ := Run.outcome_bind_eq_ok.mp h
      cases s with
      | failed u v => cases h; exact .sepByAbsent hs
      | ok u m =>
          by_cases hidle : u = t
          · subst u
            simp only [if_true] at h
            cases h
            exact .sepByIdle hs
          · simp only [hidle, if_false] at h
            obtain ⟨⟨rest, ms⟩, hms, h⟩ := Run.outcome_bind_eq_ok.mp h
            cases h
            exact .sepBy hs hidle (repeated_of_runRepeated hms)

-- Only the parsers that a rule may invoke matter to what it gives.
theorem Gives.mono {env : Env} {admits : Match → Prop} {answers others : Answers}
    {rule : Rule Parser} {t : Text} {r : Result} (h : rule.Gives env answers t r)
    (hadmits : ∀ q u rest m, others q u (.ok rest m) → admits m)
    (himp : ∀ q, rule.Calls env admits q → ∀ u s, answers q u s → others q u s) :
    rule.Gives env others t r := by
  cases h with
  | char c t => exact .char c t
  | pattern use p t => exact .pattern use p t
  | symbol literal t => exact .symbol literal t
  | whiteSpace t => exact .whiteSpace t
  | succeed m t => exact .succeed m t
  | custom hf => exact .custom hf
  | sequence hall hm => exact .sequence (hall.mono himp) hm
  | sequenceBroken hall => exact .sequenceBroken (hall.mono himp)
  | choice hfirst => exact .choice (hfirst.mono himp)
  | attempt hp => exact .attempt (himp _ rfl _ _ hp)
  | maybe hp => exact .maybe (himp _ rfl _ _ hp)
  | maybeAbsent hp => exact .maybeAbsent (himp _ rfl _ _ hp)
  | many hs => exact .many (hs.mono (himp _ rfl))
  | many1 hs => exact .many1 (hs.mono (himp _ rfl))
  | many1Absent hs => exact .many1Absent (hs.mono (himp _ rfl))
  | sepBy he hmoved hs =>
      exact .sepBy (himp _ (.inl rfl) _ _ he) hmoved (hs.mono (himp _ (.inr rfl)))
  | sepByIdle he => exact .sepByIdle (himp _ (.inl rfl) _ _ he)
  | sepByAbsent he => exact .sepByAbsent (himp _ (.inl rfl) _ _ he)
  | label hp => exact .label (himp _ rfl _ _ hp)
  | labelFailed hp => exact .labelFailed (himp _ rfl _ _ hp)
  | lexeme hp => exact .lexeme (himp _ rfl _ _ hp)
  | lexemeFailed hp => exact .lexemeFailed (himp _ rfl _ _ hp)
  | bind hfirst hnext hp =>
      have hf := himp _ (.inl rfl) _ _ hfirst
      exact .bind hf hnext (himp _ (.inr ⟨_, hadmits _ _ _ _ hf, hnext⟩) _ _ hp)
  | bindFailed hfirst => exact .bindFailed (himp _ (.inl rfl) _ _ hfirst)
  | forward hslot hp => exact .forward hslot (himp _ hslot _ _ hp)
  | follow hslot hp => exact .follow hslot (himp _ hslot _ _ hp)
  | lookUp hid hp => exact .lookUp hid (himp _ hid _ _ hp)

end Rule

namespace Parser

-- What holds of every result of every parser of a grammar: it is enough to look at one rule, given
-- that it holds of the results of the parsers that the rule invokes.
theorem invoke_induction {env : Env} {admits : Match → Prop} {allowed : Rule Parser → Prop}
    (answers : Answers) (hadmits : ∀ q u rest m, answers q u (.ok rest m) → admits m)
    (hrule : ∀ q u s, allowed q.rule → q.rule.Gives env answers u s → answers q u s)
    {limit : Nat} {p : Parser} {t : Text} {r : Result} (hp : p.Throughout env admits allowed)
    (h : (p.invoke env limit t).outcome = .ok r) : answers p t r := by
  induction limit generalizing p t r with
  | zero => cases h
  | succ limit ih =>
      rw [invoke_succ, outcome_noted] at h
      have hgives := Rule.gives_of_perform h
      exact hrule p t r hp.here (hgives.mono hadmits fun q hq u s hs => ih (hp.call hq) hs)

end Parser

end Descent
