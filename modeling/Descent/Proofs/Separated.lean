import Descent.Proofs.Gives
import Descent.Proofs.Unlimited

namespace Descent

namespace Answers

-- What parsers come to where the nesting limit is out of the way.
def settled (env : Env) : Answers :=
  fun p t r => p.ComesTo env t (.ok r)

end Answers

theorem Parser.ComesTo.gives {env : Env} {p : Parser} {t : Text} {r : Result}
    (h : p.ComesTo env t (.ok r)) : p.rule.Gives env (Answers.settled env) t r := by
  obtain ⟨level, hlevel⟩ := h
  have hrun := hlevel (level + 1) (Nat.le_succ level)
  rw [invoke_succ, outcome_noted] at hrun
  have hcomes : ∀ q u s, Answers.of (invoke env level) q u s → Answers.settled env q u s :=
    fun q u s hs => ComesTo.of_outcome hs (by simp)
  exact @Rule.Gives.mono env (fun _ => True) _ _ _ _ _ (Rule.gives_of_perform hrun)
    (fun _ _ _ _ _ => trivial) fun q _ => hcomes q

-- An element that was taken: where the search for it began, what it was given, behind the separator if
-- there is one, and what it left.
structure Taking where
  start : Text
  given : Text
  rest : Text
  value : Match

namespace Answers

-- What is taken behind an element. The end is where no separator stands, or no element behind it, which
-- leaves the separator too; or where both together took nothing.
inductive Separated (answers : Answers) (separator element : Parser) :
    Text → List Taking → Text → Prop
  | missing {t u : Text} {v : Match} :
      answers separator t (.failed u v) → Separated answers separator element t [] t
  | dangling {t given u : Text} {n v : Match} :
      answers separator t (.ok given n) → answers element given (.failed u v) →
        Separated answers separator element t [] t
  | idle {t given : Text} {n m : Match} :
      answers separator t (.ok given n) → answers element given (.ok t m) →
        Separated answers separator element t [⟨t, given, t, m⟩] t
  | step {t given rest last : Text} {n m : Match} {takings : List Taking} :
      answers separator t (.ok given n) → answers element given (.ok rest m) → rest ≠ t →
        Separated answers separator element rest takings last →
          Separated answers separator element t (⟨t, given, rest, m⟩ :: takings) last

-- The whole list. Its first element has no separator in front of it.
inductive Listed (answers : Answers) (separator element : Parser) :
    Text → List Taking → Text → Prop
  | none {t u : Text} {v : Match} :
      answers element t (.failed u v) → Listed answers separator element t [] t
  | idle {t : Text} {m : Match} :
      answers element t (.ok t m) → Listed answers separator element t [⟨t, t, t, m⟩] t
  | some {t rest last : Text} {m : Match} {takings : List Taking} :
      answers element t (.ok rest m) → rest ≠ t → Separated answers separator element rest takings last →
        Listed answers separator element t (⟨t, t, rest, m⟩ :: takings) last

variable {answers : Answers} {separator element : Parser} {t last : Text} {takings : List Taking}

theorem dropLast_moved {a : Taking} (ha : a.rest ≠ a.start)
    (h : ∀ b ∈ takings.dropLast, b.rest ≠ b.start) : ∀ b ∈ (a :: takings).dropLast, b.rest ≠ b.start := by
  cases takings with
  | nil => simp
  | cons c takings => exact List.forall_mem_cons.mpr ⟨ha, h⟩

-- Only the last one can come without progress.
theorem Separated.moved (h : answers.Separated separator element t takings last) :
    ∀ a ∈ takings.dropLast, a.rest ≠ a.start := by
  induction h with
  | missing _ | dangling _ _ | idle _ _ => simp
  | step _ _ hmoved _ ih => exact dropLast_moved hmoved ih

theorem Listed.moved (h : answers.Listed separator element t takings last) :
    ∀ a ∈ takings.dropLast, a.rest ≠ a.start := by
  cases h with
  | none _ | idle _ => simp
  | some _ hmoved hrest => exact dropLast_moved hmoved hrest.moved

end Answers

namespace Parser

variable {env : Env} {separator element : Parser} {t last : Text}

open Answers (settled)

-- A separator with an element behind it, of which the element is kept.
abbrev behindSeparator (separator element : Parser) : Parser :=
  sequence [separator, element] (.nth 1)

section Gives

variable {answers others : Answers} {ms : List Match}

theorem behindSeparator_ok {rest : Text} {m : Match}
    (h : (behindSeparator separator element).rule.Gives env answers t (.ok rest m)) :
    ∃ given n, answers separator t (.ok given n) ∧ answers element given (.ok rest m) := by
  cases h with
  | sequence hall hm =>
      cases hall with
      | next hseparator hall =>
          cases hall with
          | next helement hall =>
              cases hall
              cases hm
              exact ⟨_, _, hseparator, helement⟩

theorem behindSeparator_failed {u : Text} {v : Match}
    (h : (behindSeparator separator element).rule.Gives env answers t (.failed u v)) :
    (∃ w x, answers separator t (.failed w x)) ∨
      ∃ given n w x, answers separator t (.ok given n) ∧ answers element given (.failed w x) := by
  cases h with
  | sequenceBroken hall =>
      cases hall with
      | failed hseparator => exact .inl ⟨_, _, hseparator⟩
      | broken hseparator hall =>
          cases hall with
          | failed helement => exact .inr ⟨_, _, _, _, hseparator, helement⟩
          | broken _ hall => cases hall

theorem separated_of_repeated
    (hpair : ∀ u r, others (behindSeparator separator element) u r →
      (behindSeparator separator element).rule.Gives env answers u r)
    (h : others.Repeated (behindSeparator separator element) t last ms) :
    ∃ takings, ms = takings.map (·.value) ∧ answers.Separated separator element t takings last := by
  induction h with
  | stop hfailed =>
      rcases behindSeparator_failed (hpair _ _ hfailed) with
        ⟨u, v, hmissing⟩ | ⟨given, n, u, v, hseparator, hfailed⟩
      · exact ⟨[], rfl, .missing hmissing⟩
      · exact ⟨[], rfl, .dangling hseparator hfailed⟩
  | idle hok =>
      obtain ⟨given, n, hseparator, helement⟩ := behindSeparator_ok (hpair _ _ hok)
      exact ⟨[_], rfl, .idle hseparator helement⟩
  | step hok hmoved _ ih =>
      obtain ⟨given, n, hseparator, helement⟩ := behindSeparator_ok (hpair _ _ hok)
      obtain ⟨takings, rfl, hrest⟩ := ih
      exact ⟨_ :: takings, rfl, .step hseparator helement hmoved hrest⟩

-- The parts of the pairs may answer under another limit than the pairs and the first element.
theorem listed_of_gives {r : Result}
    (hpair : ∀ u r, others (behindSeparator separator element) u r →
      (behindSeparator separator element).rule.Gives env answers u r)
    (hfirst : ∀ r, others element t r → answers element t r)
    (h : (sepBy separator element).rule.Gives env others t r) :
    ∃ takings last, r = .ok last (.seq (takings.map (·.value))) ∧
      answers.Listed separator element t takings last := by
  cases h with
  | sepByAbsent hfailed => exact ⟨[], t, rfl, .none (hfirst _ hfailed)⟩
  | sepByIdle helement => exact ⟨[_], t, rfl, .idle (hfirst _ helement)⟩
  | sepBy helement hmoved hrounds =>
      obtain ⟨takings, rfl, hrest⟩ := separated_of_repeated hpair hrounds
      exact ⟨_ :: takings, _, rfl, .some (hfirst _ helement) hmoved hrest⟩

end Gives

theorem sepBy_listed {r : Result} (h : (sepBy separator element).ComesTo env t (.ok r)) :
    ∃ takings last, r = .ok last (.seq (takings.map (·.value))) ∧
      (settled env).Listed separator element t takings last :=
  listed_of_gives (fun _ _ hpair => hpair.gives) (fun _ hfirst => hfirst) h.gives

-- An element that left its text as it was given is the last item, or the separator in front of it took
-- something. The first element has none in front of it, so that the list ends with it.
theorem sepBy_idle_element {limit : Nat} {r : Result}
    (h : ((sepBy separator element).invoke env limit t).outcome = .ok r) :
    ∃ takings last, r = .ok last (.seq (takings.map (·.value))) ∧
      (settled env).Listed separator element t takings last ∧
      ∀ a ∈ takings.dropLast, a.rest = a.given → a.given ≠ a.start := by
  obtain ⟨takings, last, hr, hlisted⟩ := sepBy_listed (ComesTo.of_outcome h (by simp))
  refine ⟨takings, last, hr, hlisted, fun a ha hidle => ?_⟩
  rw [← hidle]
  exact hlisted.moved a ha

-- Of a letter and two commas nothing is left, with an absent letter behind each comma.
def letters : Parser :=
  sepBy (symbol [',']) (maybe (char 'x'))

theorem sepBy_idle_element_letters :
    (letters.invoke (.ofTargets []) 4 ['x', ',', ',']).outcome =
        .ok (.ok [] (.seq [.leaf ['x'], .empty, .empty])) ∧
      ∃ takings last, Result.ok [] (.seq [.leaf ['x'], .empty, .empty]) =
          .ok last (.seq (takings.map (·.value))) ∧
        (settled (.ofTargets [])).Listed (symbol [',']) (maybe (char 'x')) ['x', ',', ','] takings last ∧
        ∀ a ∈ takings.dropLast, a.rest = a.given → a.given ≠ a.start := by
  have hrun : (letters.invoke (.ofTargets []) 4 ['x', ',', ',']).outcome =
      .ok (.ok [] (.seq [.leaf ['x'], .empty, .empty])) := rfl
  exact ⟨hrun, sepBy_idle_element hrun⟩

-- The first absent letter takes nothing, and another one is taken behind it.
theorem sepBy_goes_on :
    ((maybe (char 'x')).invoke (.ofTargets []) 2 [',']).outcome = .ok (.ok [','] .empty) ∧
      (letters.invoke (.ofTargets []) 4 ['x', ',', ',']).outcome =
        .ok (.ok [] (.seq [.leaf ['x'], .empty, .empty])) :=
  ⟨rfl, rfl⟩

end Parser

end Descent
