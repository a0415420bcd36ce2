import Descent.Proofs.Deciding
import Descent.Proofs.Separated
import Descent.Proofs.Tracing

namespace Descent

-- On a text and all of its ends a parser comes to a result, and where it succeeds it leaves an end of what
-- it was given.
def Invocation.Responds (invoke : Invocation) (p : Parser) (t : Text) : Prop :=
  ∀ u, u <:+ t → ∃ r, (invoke p u).outcome = .ok r ∧ (r.succeeded = true → r.rest <:+ u)

namespace Invocation.Responds

variable {invoke : Invocation} {p : Parser} {t u : Text} {m : Match}

theorem of_suffix (h : invoke.Responds p t) (hu : u <:+ t) : invoke.Responds p u :=
  fun v hv => h v (hv.trans hu)

theorem rest_suffix (h : invoke.Responds p t) (hu : (invoke p t).outcome = .ok (.ok u m)) : u <:+ t := by
  obtain ⟨r, hr, hsuffix⟩ := h t (List.suffix_refl t)
  obtain rfl : r = .ok u m := Except.ok.inj (hr.symm.trans hu)
  exact hsuffix rfl

end Invocation.Responds

-- Matches that are taken round by round, with the texts between the rounds. Each round but the last one
-- shortens the text, and behind the last one there is no further one or it took nothing.
structure Rounds (takes : Nat → Text → Text → Match → Prop) (refuses : Nat → Text → Prop) (t : Text)
    (texts : Nat → Text) (ms : List Match) : Prop where
  start : texts 0 = t
  taken : ∀ i (h : i < ms.length), takes i (texts i) (texts (i + 1)) ms[i]
  suffix : ∀ i < ms.length, texts (i + 1) <:+ texts i
  shorter : ∀ i, i + 1 < ms.length → (texts (i + 1)).length < (texts i).length
  ended : refuses ms.length (texts ms.length) ∨
    ∃ k, ms.length = k + 1 ∧ texts (k + 1) = texts k

namespace Rounds

variable {takes : Nat → Text → Text → Match → Prop} {refuses : Nat → Text → Prop} {t u : Text}
  {texts : Nat → Text} {m : Match} {ms : List Match}

theorem stop (h : refuses 0 t) : Rounds takes refuses t (fun _ => t) [] where
  start := rfl
  taken _ hi := absurd hi (Nat.not_lt_zero _)
  suffix _ hi := absurd hi (Nat.not_lt_zero _)
  shorter _ hi := absurd hi (Nat.not_lt_zero _)
  ended := .inl h

theorem idle (h : takes 0 t t m) : Rounds takes refuses t (fun _ => t) [m] where
  start := rfl
  taken _ hi := by
    obtain rfl := Nat.lt_one_iff.mp hi
    exact h
  suffix _ _ := List.suffix_refl t
  shorter _ hi := by simp at hi
  ended := .inr ⟨0, rfl, rfl⟩

-- A round in front of others.
def textsBehind (t : Text) (texts : Nat → Text) : Nat → Text
  | 0 => t
  | i + 1 => texts i

theorem step (h : takes 0 t u m) (hsuffix : u <:+ t) (hmoved : u ≠ t)
    (hrest : Rounds (fun i => takes (i + 1)) (fun i => refuses (i + 1)) u texts ms) :
    Rounds takes refuses t (textsBehind t texts) (m :: ms) where
  start := rfl
  taken i hi := by
    cases i with
    | zero => simpa [textsBehind, hrest.start] using h
    | succ i => exact hrest.taken i (Nat.lt_of_succ_lt_succ hi)
  suffix i hi := by
    cases i with
    | zero => simpa [textsBehind, hrest.start] using hsuffix
    | succ i => exact hrest.suffix i (Nat.lt_of_succ_lt_succ hi)
  shorter i hi := by
    cases i with
    | zero => simpa [textsBehind, hrest.start] using Text.length_lt_of_suffix hsuffix hmoved
    | succ i => exact hrest.shorter i (Nat.lt_of_succ_lt_succ hi)
  ended := by
    rcases hrest.ended with hrefused | ⟨k, hk, hidle⟩
    · exact .inl hrefused
    · exact .inr ⟨k + 1, congrArg (· + 1) hk, hidle⟩

-- Where a text is either taken from or not, nothing is taken of it only where the first round ends.
theorem eq_nil_iff (h : Rounds takes refuses t texts ms)
    (hexclude : ∀ u m, takes 0 t u m → ¬refuses 0 t) : ms = [] ↔ refuses 0 t := by
  constructor
  · rintro rfl
    rcases h.ended with hrefused | ⟨k, hk, -⟩
    · exact h.start ▸ hrefused
    · exact absurd hk (Nat.succ_ne_zero k).symm
  · intro hrefused
    by_contra hsome
    have htaken := h.taken 0 (List.length_pos_iff.mpr hsome)
    rw [h.start] at htaken
    exact hexclude _ _ htaken hrefused

theorem suffix_start (h : Rounds takes refuses t texts ms) {i : Nat} (hi : i ≤ ms.length) :
    texts i <:+ t := by
  induction i with
  | zero => exact h.start ▸ List.suffix_refl _
  | succ i ih => exact (h.suffix i hi).trans (ih (Nat.le_of_succ_le hi))

-- Every round but the last one costs a character.
theorem add_length_le (h : Rounds takes refuses t texts ms) {i : Nat} (hi : i < ms.length) :
    i + (texts i).length ≤ t.length := by
  induction i with
  | zero => simp [h.start]
  | succ i ih =>
      have hbefore := ih (Nat.lt_of_succ_lt hi)
      have hshorter := h.shorter i hi
      omega

theorem length_le (h : Rounds takes refuses t texts ms) :
    ms.length ≤ t.length - (texts ms.length).length + 1 := by
  match hlength : ms.length with
  | 0 => exact Nat.zero_le _
  | k + 1 =>
      have hk : k < ms.length := by omega
      have hbefore := h.add_length_le hk
      have hlast := (h.suffix k hk).length_le
      omega

end Rounds

namespace Rule

variable {invoke : Invocation} {p : Parser} {t : Text}

-- A round that goes on shortens the text, so that the rounds do not run out.
theorem exists_runRepeated {fuel : Nat} (h : invoke.Responds p t) (hfuel : t.length < fuel) :
    ∃ last ms, (runRepeated invoke p fuel t).outcome = .ok (last, ms) := by
  induction fuel generalizing t with
  | zero => exact absurd hfuel (Nat.not_lt_zero _)
  | succ fuel ih =>
      obtain ⟨r, hr, -⟩ := h t (List.suffix_refl t)
      cases r with
      | failed u v => exact ⟨t, [], Run.outcome_bind_eq_ok.mpr ⟨_, hr, rfl⟩⟩
      | ok u m =>
          by_cases hidle : u = t
          · exact ⟨u, [m], Run.outcome_bind_eq_ok.mpr ⟨_, hr, by simp [hidle]⟩⟩
          · have hu := h.rest_suffix hr
            have hshorter := Text.length_lt_of_suffix hu hidle
            obtain ⟨last, ms, hrest⟩ := ih (h.of_suffix hu) (by omega)
            refine ⟨last, m :: ms, Run.outcome_bind_eq_ok.mpr ⟨_, hr, ?_⟩⟩
            simp only [hidle, if_false]
            exact Run.outcome_bind_eq_ok.mpr ⟨_, hrest, rfl⟩

theorem exists_repeated (h : invoke.Responds p t) :
    ∃ last ms, (repeated invoke p t).outcome = .ok (last, ms) ∧
      (Answers.of invoke).Repeated p t last ms := by
  have hfuel : t.length < roundsFor t := by unfold roundsFor; omega
  obtain ⟨last, ms, hrun⟩ := exists_runRepeated h hfuel
  exact ⟨last, ms, hrun, repeated_of_runRepeated hrun⟩

theorem callsOfRounds_bounded (fuel : Nat) (h : invoke.Responds p t) :
    (callsOfRounds invoke.outcomes p fuel t).length ≤ t.length + 1 ∧
      ∀ c ∈ callsOfRounds invoke.outcomes p fuel t, c.1 = p := by
  induction fuel generalizing t with
  | zero => simp [callsOfRounds]
  | succ fuel ih =>
      obtain ⟨r, hr, -⟩ := h t (List.suffix_refl t)
      have hout : invoke.outcomes p t = .ok r := hr
      rw [callsOfRounds, hout]
      cases r with
      | failed u v => simp [behindSuccess]
      | ok u m =>
          by_cases hidle : u = t
          · simp [behindSuccess, hidle]
          · have hu := h.rest_suffix hr
            have hshorter := Text.length_lt_of_suffix hu hidle
            obtain ⟨hbound, hsame⟩ := ih (h.of_suffix hu)
            simp only [behindSuccess, hidle, if_false, List.length_cons, List.forall_mem_cons]
            exact ⟨by omega, trivial, hsame⟩

end Rule

namespace Answers

variable {answers : Answers} {p separator element : Parser} {t last : Text} {ms : List Match}
  {takings : List Taking}

-- What a parser takes in a round, and where it fails.
def takes (answers : Answers) (p : Parser) (u rest : Text) (m : Match) : Prop :=
  answers p u (.ok rest m)

def refuses (answers : Answers) (p : Parser) (u : Text) : Prop :=
  ∃ w v, answers p u (.failed w v)

-- The same of an element with a separator in front of it.
def takesBehind (answers : Answers) (separator element : Parser) (u rest : Text) (m : Match) : Prop :=
  ∃ given n, answers.takes separator u given n ∧ answers.takes element given rest m

def refusesBehind (answers : Answers) (separator element : Parser) (u : Text) : Prop :=
  answers.refuses separator u ∨
    ∃ given n, answers.takes separator u given n ∧ answers.refuses element given

-- The rounds of a list: the first one has no separator.
def takesListed (answers : Answers) (separator element : Parser) : Nat → Text → Text → Match → Prop
  | 0 => answers.takes element
  | _ + 1 => answers.takesBehind separator element

def refusesListed (answers : Answers) (separator element : Parser) : Nat → Text → Prop
  | 0 => answers.refuses element
  | _ + 1 => answers.refusesBehind separator element

-- On the ends of a text, successes leave ends of what was given.
def LeavesEnds (answers : Answers) (p : Parser) (t : Text) : Prop :=
  ∀ u rest m, u <:+ t → answers.takes p u rest m → rest <:+ u

theorem LeavesEnds.of_suffix {u : Text} (h : answers.LeavesEnds p t) (hu : u <:+ t) :
    answers.LeavesEnds p u :=
  fun v rest m hv => h v rest m (hv.trans hu)

theorem LeavesEnds.behind {u rest : Text} {m : Match} (hseparator : answers.LeavesEnds separator t)
    (helement : answers.LeavesEnds element t) (hu : u <:+ t)
    (h : answers.takesBehind separator element u rest m) : rest <:+ u := by
  obtain ⟨given, n, hgiven, hrest⟩ := h
  have hends : given <:+ u := hseparator u given n hu hgiven
  exact (helement given rest m (hends.trans hu) hrest).trans hends

theorem Repeated.rounds (h : answers.Repeated p t last ms) (hp : answers.LeavesEnds p t) :
    ∃ texts, texts ms.length = last ∧
      Rounds (fun _ => answers.takes p) (fun _ => answers.refuses p) t texts ms := by
  induction h with
  | stop hfailed => exact ⟨_, rfl, .stop ⟨_, _, hfailed⟩⟩
  | idle hok => exact ⟨_, rfl, .idle hok⟩
  | @step t u last m ms hok hmoved _ ih =>
      have hu : u <:+ t := hp t u m (List.suffix_refl t) hok
      obtain ⟨texts, hlast, hrounds⟩ := ih (hp.of_suffix hu)
      exact ⟨_, hlast, .step hok hu hmoved hrounds⟩

theorem Separated.rounds (h : answers.Separated separator element t takings last)
    (hseparator : answers.LeavesEnds separator t) (helement : answers.LeavesEnds element t) :
    ∃ texts, texts takings.length = last ∧
      Rounds (fun _ => answers.takesBehind separator element)
        (fun _ => answers.refusesBehind separator element) t texts (takings.map (·.value)) := by
  induction h with
  | missing hfailed => exact ⟨_, rfl, .stop (.inl ⟨_, _, hfailed⟩)⟩
  | dangling hgiven hfailed => exact ⟨_, rfl, .stop (.inr ⟨_, _, hgiven, _, _, hfailed⟩)⟩
  | idle hgiven hok => exact ⟨_, rfl, .idle ⟨_, _, hgiven, hok⟩⟩
  | @step t given rest last n m takings hgiven hok hmoved _ ih =>
      have htaken : answers.takesBehind separator element t rest m := ⟨given, n, hgiven, hok⟩
      have hrest : rest <:+ t := hseparator.behind helement (List.suffix_refl t) htaken
      obtain ⟨texts, hlast, hrounds⟩ := ih (hseparator.of_suffix hrest) (helement.of_suffix hrest)
      exact ⟨_, hlast, .step htaken hrest hmoved hrounds⟩

theorem Listed.rounds (h : answers.Listed separator element t takings last)
    (hseparator : answers.LeavesEnds separator t) (helement : answers.LeavesEnds element t) :
    ∃ texts, texts takings.length = last ∧
      Rounds (answers.takesListed separator element) (answers.refusesListed separator element) t texts
        (takings.map (·.value)) := by
  cases h with
  | none hfailed => exact ⟨_, rfl, .stop ⟨_, _, hfailed⟩⟩
  | idle hok => exact ⟨_, rfl, .idle hok⟩
  | some hok hmoved hseparated =>
      have hrest := helement t _ _ (List.suffix_refl t) hok
      obtain ⟨texts, hlast, hrounds⟩ :=
        hseparated.rounds (hseparator.of_suffix hrest) (helement.of_suffix hrest)
      exact ⟨_, hlast, .step hok hrest hmoved hrounds⟩

end Answers

namespace Parser

open Rule

variable {env : Env} {limit : Nat} {p separator element : Parser} {t : Text}

-- Parsers with an answer to every text are of this kind.
theorem responds_of_decides {least : Nat} {kind : Match → Prop} (h : Decides env limit p least kind) :
    Invocation.Responds (invoke env limit) p t := by
  intro u _
  rcases h u with hfail | ⟨rest, m, hok, -, -⟩
  · exact ⟨_, hfail.outcome limit (Nat.le_refl _), nofun⟩
  · exact ⟨_, hok.outcome limit (Nat.le_refl _), fun _ => hok.suffix⟩

theorem leavesEnds_of_responds (h : Invocation.Responds (invoke env limit) p t) :
    (Answers.of (invoke env limit)).LeavesEnds p t :=
  fun _ _ _ hu => (h.of_suffix hu).rest_suffix

theorem not_refuses_of_takes {rest : Text} {m : Match}
    (h : (Answers.of (invoke env limit)).takes p t rest m) :
    ¬(Answers.of (invoke env limit)).refuses p t := by
  rintro ⟨u, v, hfailed⟩
  cases Except.ok.inj (h.symm.trans hfailed)

theorem outcome_succ {r : Result} (h : (p.invoke env limit t).outcome = .ok r) :
    (p.invoke env (limit + 1) t).outcome = .ok r :=
  outcome_of_le (Nat.le_succ limit) h

theorem outcome_many {last : Text} {ms : List Match}
    (h : (repeated (invoke env limit) p t).outcome = .ok (last, ms)) :
    ((many p).invoke env (limit + 1) t).outcome = .ok (.ok last (.seq ms)) := by
  rw [invoke_succ, outcome_noted]
  exact Run.outcome_bind_eq_ok.mpr ⟨_, h, rfl⟩

theorem outcome_many1 {last : Text} {ms : List Match}
    (h : (repeated (invoke env limit) p t).outcome = .ok (last, ms)) :
    ((many1 p).invoke env (limit + 1) t).outcome =
      .ok (if ms.isEmpty then .fail t else .ok last (.seq ms)) := by
  rw [invoke_succ, outcome_noted]
  refine Run.outcome_bind_eq_ok.mpr ⟨_, h, ?_⟩
  cases ms <;> rfl

theorem responds_behindSeparator (hseparator : Invocation.Responds (invoke env limit) separator t)
    (helement : Invocation.Responds (invoke env limit) element t) :
    Invocation.Responds (invoke env (limit + 1)) (behindSeparator separator element) t := by
  -- Whichever of the two fails, what is left is the text in front of the separator.
  have hbroken : ∀ u, (Answers.of (invoke env limit)).All [separator, element] u none →
      ((behindSeparator separator element).invoke env (limit + 1) u).outcome = .ok (.fail u) := by
    intro u hall
    rw [invoke_succ, outcome_noted]
    exact Run.outcome_bind_eq_ok.mpr ⟨_, runAll_of_all hall fun _ _ _ h => h, rfl⟩
  intro u hu
  obtain ⟨r, hr, hleft⟩ := hseparator u hu
  cases r with
  | failed w v => exact ⟨_, hbroken u (.failed hr), nofun⟩
  | ok given n =>
      have hgiven : given <:+ u := hleft rfl
      obtain ⟨s, hs, hleft'⟩ := helement given (hgiven.trans hu)
      cases s with
      | failed w v => exact ⟨_, hbroken u (.broken hr (.failed hs)), nofun⟩
      | ok rest m =>
          have hall : (Answers.of (invoke env limit)).All [separator, element] u
              (some (rest, [n, m])) := .next hr (.next hs (.done rest))
          refine ⟨.ok rest m, ?_, fun _ => (hleft' rfl).trans hgiven⟩
          rw [invoke_succ, outcome_noted]
          exact Run.outcome_bind_eq_ok.mpr ⟨_, runAll_of_all hall fun _ _ _ h => h, rfl⟩

theorem exists_sepBy (hseparator : Invocation.Responds (invoke env limit) separator t)
    (helement : Invocation.Responds (invoke env limit) element t) :
    ∃ r, ((sepBy separator element).invoke env (limit + 2) t).outcome = .ok r := by
  obtain ⟨r, hr, hleft⟩ := helement t (List.suffix_refl t)
  rw [invoke_succ, outcome_noted]
  cases r with
  | failed u v => exact ⟨_, Run.outcome_bind_eq_ok.mpr ⟨_, outcome_succ hr, rfl⟩⟩
  | ok rest m =>
      by_cases hidle : rest = t
      · exact ⟨.ok t (.seq [m]), Run.outcome_bind_eq_ok.mpr ⟨_, outcome_succ hr, by simp [hidle]⟩⟩
      · have hpairs := responds_behindSeparator hseparator helement
        obtain ⟨last, ms, hrun, -⟩ := exists_repeated (hpairs.of_suffix (hleft rfl))
        refine ⟨.ok last (.seq (m :: ms)), Run.outcome_bind_eq_ok.mpr ⟨_, outcome_succ hr, ?_⟩⟩
        simp only [hidle, if_false]
        exact Run.outcome_bind_eq_ok.mpr ⟨_, hrun, rfl⟩

-- Repetition takes greedily and ends within one round more than there are characters.
theorem many_greedy (h : Invocation.Responds (invoke env limit) p t) :
    ∃ texts ms, ((many p).invoke env (limit + 1) t).outcome = .ok (.ok (texts ms.length) (.seq ms)) ∧
      Rounds (fun _ => (Answers.of (invoke env limit)).takes p)
        (fun _ => (Answers.of (invoke env limit)).refuses p) t texts ms ∧
      texts ms.length <:+ t ∧ ms.length ≤ t.length - (texts ms.length).length + 1 ∧
      (ms = [] → texts ms.length = t) ∧
      ((many p).call env (limit + 1) t).inner.length ≤ t.length + 1 ∧
      (∀ c ∈ ((many p).call env (limit + 1) t).inner, c.parser = p) ∧
      ((∃ rest m, (p.invoke env limit t).outcome = .ok (.ok rest m)) →
        ((many1 p).invoke env (limit + 1) t).outcome = ((many p).invoke env (limit + 1) t).outcome) ∧
      ((∃ u v, (p.invoke env limit t).outcome = .ok (.failed u v)) →
        ((many1 p).invoke env (limit + 1) t).outcome = .ok (.fail t)) := by
  obtain ⟨last, ms, hrun, hrepeated⟩ := exists_repeated h
  obtain ⟨texts, rfl, hrounds⟩ := hrepeated.rounds (leavesEnds_of_responds h)
  have hmany : ((many p).invoke env (limit + 1) t).outcome = .ok (.ok (texts ms.length) (.seq ms)) := by
    rw [invoke_succ, outcome_noted]
    exact Run.outcome_bind_eq_ok.mpr ⟨_, hrun, rfl⟩
  have hmany1 : ((many1 p).invoke env (limit + 1) t).outcome =
      .ok (if ms.isEmpty then .fail t else .ok (texts ms.length) (.seq ms)) := by
    rw [invoke_succ, outcome_noted]
    refine Run.outcome_bind_eq_ok.mpr ⟨_, hrun, ?_⟩
    cases ms <;> rfl
  have hrefused := hrounds.eq_nil_iff fun u m => not_refuses_of_takes
  obtain ⟨hbound, hsame⟩ := callsOfRounds_bounded (roundsFor t) h
  refine ⟨texts, ms, hmany, hrounds, hrounds.suffix_start (Nat.le_refl _), hrounds.length_le, ?_, ?_, ?_,
    ?_, ?_⟩
  · rintro rfl
    exact hrounds.start
  · simpa [call, many, Rule.calls] using hbound
  · intro c hc
    obtain ⟨⟨q, u⟩, hq, rfl⟩ := List.mem_map.mp hc
    obtain rfl : q = p := hsame _ hq
    cases limit <;> rfl
  · rintro ⟨rest, m, hok⟩
    have hsome : ms ≠ [] := fun hnone => not_refuses_of_takes hok (hrefused.mp hnone)
    rw [hmany1, hmany, if_neg (mt List.isEmpty_iff.mp hsome)]
  · intro hfailed
    rw [hmany1, if_pos (List.isEmpty_iff.mpr (hrefused.mpr hfailed))]

-- A letter or nothing: the repetition is over once nothing was taken.
def letter : Parser :=
  maybe (choice [char 'a', char 'b'])

theorem letter_responds (t : Text) : Invocation.Responds (invoke (.ofTargets []) 3) letter t := by
  have hletters : ∀ q ∈ [char 'a', char 'b'], Decides (.ofTargets []) 1 q 1 fun _ => True := by
    simp only [List.forall_mem_cons]
    exact ⟨(decides_char 'a').mono (Nat.le_refl 1) (Nat.le_refl 1) fun _ _ => trivial,
      (decides_char 'b').mono (Nat.le_refl 1) (Nat.le_refl 1) fun _ _ => trivial, by simp⟩
  exact responds_of_decides (Decides.choice rfl hletters).maybe

theorem many_greedy_letter :
    Invocation.Responds (invoke (.ofTargets []) 3) letter ['b', 'a', 'c'] ∧
      ((many letter).invoke (.ofTargets []) 4 ['b', 'a', 'c']).outcome =
        .ok (.ok ['c'] (.seq [.leaf ['b'], .leaf ['a'], .empty])) ∧
      ((many1 letter).invoke (.ofTargets []) 4 ['b', 'a', 'c']).outcome =
        .ok (.ok ['c'] (.seq [.leaf ['b'], .leaf ['a'], .empty])) ∧
      ∃ texts : Nat → Text, texts 3 = ['c'] ∧
        Rounds (fun _ => (Answers.of (invoke (.ofTargets []) 3)).takes letter)
          (fun _ => (Answers.of (invoke (.ofTargets []) 3)).refuses letter) ['b', 'a', 'c'] texts
          [.leaf ['b'], .leaf ['a'], .empty] := by
  have hresponds := letter_responds ['b', 'a', 'c']
  have hmany : ((many letter).invoke (.ofTargets []) 4 ['b', 'a', 'c']).outcome =
      .ok (.ok ['c'] (.seq [.leaf ['b'], .leaf ['a'], .empty])) := rfl
  have hok : (letter.invoke (.ofTargets []) 3 ['b', 'a', 'c']).outcome =
      .ok (.ok ['a', 'c'] (.leaf ['b'])) := rfl
  obtain ⟨texts, ms, hrun, hrounds, -, -, -, -, -, hmany1, -⟩ := many_greedy hresponds
  obtain ⟨hlast, hms⟩ := Result.ok.inj (Except.ok.inj (hrun.symm.trans hmany))
  obtain rfl := Match.seq.inj hms
  exact ⟨hresponds, hmany, (hmany1 ⟨_, _, hok⟩).trans hmany, texts, hlast, hrounds⟩

-- A list takes elements as long as a separator and an element stand there, and leaves a separator that no
-- element follows.
theorem sepBy_longest_run (hseparator : Invocation.Responds (invoke env limit) separator t)
    (helement : Invocation.Responds (invoke env limit) element t) :
    ∃ texts ms,
      ((sepBy separator element).invoke env (limit + 2) t).outcome =
        .ok (.ok (texts ms.length) (.seq ms)) ∧
      Rounds ((Answers.of (invoke env limit)).takesListed separator element)
        ((Answers.of (invoke env limit)).refusesListed separator element) t texts ms ∧
      (ms = [] ∧ texts ms.length = t ↔
        ∃ u v, (element.invoke env limit t).outcome = .ok (.failed u v)) ∧
      texts ms.length <:+ t ∧ ms.length ≤ t.length - (texts ms.length).length + 1 := by
  obtain ⟨r, hr⟩ := exists_sepBy hseparator helement
  have hgives : (sepBy separator element).rule.Gives env (Answers.of (invoke env (limit + 1))) t r := by
    rw [invoke_succ, outcome_noted] at hr
    exact gives_of_perform hr
  have hpair : ∀ u s, Answers.of (invoke env (limit + 1)) (behindSeparator separator element) u s →
      (behindSeparator separator element).rule.Gives env (Answers.of (invoke env limit)) u s := by
    intro u s hs
    rw [Answers.of, invoke_succ, outcome_noted] at hs
    exact gives_of_perform hs
  -- The first element is invoked one level above the others, and comes to the same there.
  have hfirst : ∀ s, Answers.of (invoke env (limit + 1)) element t s →
      Answers.of (invoke env limit) element t s := by
    intro s hs
    obtain ⟨s', hs', -⟩ := helement t (List.suffix_refl t)
    obtain rfl : s' = s := Except.ok.inj ((outcome_succ hs').symm.trans hs)
    exact hs'
  obtain ⟨takings, last, rfl, hlisted⟩ := listed_of_gives hpair hfirst hgives
  obtain ⟨texts, hlast, hrounds⟩ :=
    hlisted.rounds (leavesEnds_of_responds hseparator) (leavesEnds_of_responds helement)
  have hlength : takings.length = (takings.map (·.value)).length := (List.length_map _).symm
  rw [hlength] at hlast
  subst hlast
  have hrefused := hrounds.eq_nil_iff fun u m => not_refuses_of_takes
  refine ⟨texts, takings.map (·.value), hr, hrounds, ?_, hrounds.suffix_start (Nat.le_refl _),
    hrounds.length_le⟩
  constructor
  · rintro ⟨hnone, -⟩
    exact hrefused.mp hnone
  · intro hfailed
    rw [hrefused.mpr hfailed]
    exact ⟨rfl, hrounds.start⟩

-- Two letters with commas behind them: the second comma is left.
def listText : Text :=
  ['x', ',', ' ', 'x', ',', ';']

theorem sepBy_longest_run_dangling :
    Invocation.Responds (invoke (.ofTargets []) 1) (symbol [',']) listText ∧
      Invocation.Responds (invoke (.ofTargets []) 1) (char 'x') listText ∧
      ((sepBy (symbol [',']) (char 'x')).invoke (.ofTargets []) 3 listText).outcome =
        .ok (.ok [',', ';'] (.seq [.leaf ['x'], .leaf ['x']])) ∧
      ∃ texts : Nat → Text, texts 2 = [',', ';'] ∧
        Rounds ((Answers.of (invoke (.ofTargets []) 1)).takesListed (symbol [',']) (char 'x'))
          ((Answers.of (invoke (.ofTargets []) 1)).refusesListed (symbol [',']) (char 'x')) listText
          texts [.leaf ['x'], .leaf ['x']] := by
  have hseparator : Invocation.Responds (invoke (.ofTargets []) 1) (symbol [',']) listText :=
    responds_of_decides (decides_symbol rfl (Nat.le_refl 1) (Nat.le_refl 1))
  have helement : Invocation.Responds (invoke (.ofTargets []) 1) (char 'x') listText :=
    responds_of_decides (decides_char 'x')
  have hlist : ((sepBy (symbol [',']) (char 'x')).invoke (.ofTargets []) 3 listText).outcome =
      .ok (.ok [',', ';'] (.seq [.leaf ['x'], .leaf ['x']])) := rfl
  obtain ⟨texts, ms, hrun, hrounds, -, -, -⟩ := sepBy_longest_run hseparator helement
  obtain ⟨hlast, hms⟩ := Result.ok.inj (Except.ok.inj (hrun.symm.trans hlist))
  obtain rfl := Match.seq.inj hms
  exact ⟨hseparator, helement, hlist, texts, hlast, hrounds⟩

end Parser

end Descent
