import Descent.Proofs.Consumption
import Descent.Proofs.Genuine
import Descent.Proofs.Locating

namespace Descent.Runner

variable {r : Runner} {env : Env} {limit : Nat} {p : Parser} {source rest : Text}

def Refuses (r : Runner) (source : Text) : Prop :=
  0 < r.maxSourceSize ∧ r.maxSourceSize < source.length

-- Callers put in only what leaves suffixes and yields matches.
def Admissible (env : Env) (p : Parser) : Prop :=
  p.Throughout env Match.Genuine fun rule => rule.KeepsToText ∧ rule.YieldsMatches

theorem invoke_admissible {result : Result} (hp : Admissible env p)
    (h : (p.invoke env limit source).outcome = .ok result) :
    result.rest <:+ source ∧ result.Genuine := by
  refine Parser.invoke_induction (fun _ t s => s.rest <:+ t ∧ s.Genuine) ?_ ?_ hp h
  · exact fun _ _ _ _ hs => hs.2
  · intro q t s hrule hgives
    have hsuffix := hgives.rest_suffix hrule.1 fun _ _ _ hs => hs.1
    have hgenuine := hgives.genuine hrule.2 fun _ _ _ hs => hs.2
    exact ⟨hsuffix, hgenuine⟩

theorem run_of_refuses (h : r.Refuses source) :
    r.run env limit p source = Report.fail (.sourceTooLong source.length r.maxSourceSize) := by
  have hsize : r.checkSize source.length = .error (.sourceTooLong source.length r.maxSourceSize) :=
    if_pos h
  rw [run, hsize]
  rfl

-- Behind the check of the size a run ends as the invocation does.
theorem outcome_run (h : ¬r.Refuses source) :
    (r.run env limit p source).outcome =
      ((p.invoke env limit source).outcome.mapError .fault).mapError asRecursion := by
  have hsize : r.checkSize source.length = .ok () := if_neg h
  have hraw : (guarded (call env limit p source)).outcome =
      ((p.invoke env limit source).outcome.mapError .fault).mapError asRecursion := rfl
  rw [run, hsize, Report.outcome_bind, Report.outcome_bind, hraw]
  cases (p.invoke env limit source).outcome <;> rfl

theorem outcome_parse (h : ¬r.Refuses source) :
    (r.parse env limit p source).outcome =
      ((p.invoke env limit source).outcome.mapError .fault).mapError asRecursion >>=
        fun result => (r.finish source result).outcome := by
  rw [parse, Report.outcome_bind, outcome_run h]

theorem finish_failed (v : Match) (h : rest <:+ source) :
    ∃ span context, Located source rest span context ∧
      (r.finish source (.failed rest v)).outcome = .error (.rejected
        ⟨Failure.rejection span (Failure.shown rest) context, source, rest⟩) := by
  obtain ⟨span, context, hlocate, hlocated⟩ := locate_eq_ok h
  refine ⟨span, context, hlocated, ?_⟩
  rw [finish, hlocate]
  rfl

theorem finish_leftover (m : Match) (hcomplete : r.requireComplete = true)
    (hleft : Text.skipBlanks rest ≠ []) (h : rest <:+ source) :
    ∃ span context, Located source rest span context ∧
      (r.finish source (.ok rest m)).outcome = .error (.incomplete
        ⟨Failure.leftover span (Failure.shown rest) context, source, rest⟩) := by
  obtain ⟨span, context, hlocate, hlocated⟩ := locate_eq_ok h
  have hspent : isSpent rest = false := by
    rw [← Bool.not_eq_true, isSpent_iff]
    exact hleft
  refine ⟨span, context, hlocated, ?_⟩
  rw [finish, hcomplete, hspent, hlocate]
  rfl

theorem finish_done {m : Match} (hdone : ¬(r.requireComplete = true ∧ Text.skipBlanks rest ≠ []))
    (hm : m.Genuine) :
    ∃ built, Tree.ofMatch m = .ok built ∧ (r.finish source (.ok rest m)).outcome = .ok built := by
  obtain ⟨built, hbuilt⟩ := Tree.ofMatch_genuine hm
  have hcond : (r.requireComplete && !isSpent rest) = false := by
    rw [← Bool.not_eq_true, Bool.and_eq_true, Bool.not_eq_true', ← Bool.not_eq_true, isSpent_iff]
    exact hdone
  refine ⟨built, hbuilt, ?_⟩
  rw [finish, hcond]
  simp [treeOf, hbuilt, Report.lift, Except.mapError]

-- A tree comes of nothing but a success, which leaves only blanks where a source is to be complete.
theorem invoke_of_parse {built : Option Tree} (h : (r.parse env limit p source).outcome = .ok built) :
    ∃ rest m, (p.invoke env limit source).outcome = .ok (.ok rest m) ∧
      (r.requireComplete = true → Text.skipBlanks rest = []) ∧ Tree.ofMatch m = .ok built := by
  by_cases hrefuses : r.Refuses source
  · rw [parse, run_of_refuses hrefuses, Report.fail_bind] at h
    cases h
  rw [outcome_parse hrefuses] at h
  cases hrun : (p.invoke env limit source).outcome with
  | error f =>
      rw [hrun] at h
      cases h
  | ok result =>
      have hfinish : (r.finish source result).outcome = .ok built := by rwa [hrun] at h
      cases result with
      | failed rest v =>
          rw [finish] at hfinish
          cases hlocate : locate source rest <;> (rw [hlocate] at hfinish; cases hfinish)
      | ok rest m =>
          by_cases hleft : (r.requireComplete && !isSpent rest) = true
          · rw [finish, if_pos hleft] at hfinish
            cases hlocate : locate source rest <;> (rw [hlocate] at hfinish; cases hfinish)
          · rw [finish, if_neg hleft] at hfinish
            have hspent : r.requireComplete = true → Text.skipBlanks rest = [] := by
              intro hcomplete
              rw [← isSpent_iff]
              simpa [hcomplete] using hleft
            cases hbuilt : Tree.ofMatch m with
            | error v =>
                rw [treeOf, hbuilt] at hfinish
                cases hfinish
            | ok tree =>
                rw [treeOf, hbuilt] at hfinish
                cases hfinish
                exact ⟨rest, m, rfl, hspent, hbuilt⟩

theorem finish_ne_recursion {result : Result} (h : result.rest <:+ source) :
    (r.finish source result).outcome ≠ .error .recursion := by
  cases result with
  | failed rest v =>
      have hrest : rest <:+ source := h
      obtain ⟨span, context, -, hfinish⟩ := finish_failed (r := r) v hrest
      simp [hfinish]
  | ok rest m =>
      cases hcond : r.requireComplete && !isSpent rest with
      | true =>
          obtain ⟨hcomplete, hspent⟩ := Bool.and_eq_true_iff.mp hcond
          have hleft : Text.skipBlanks rest ≠ [] := by
            rw [ne_eq, ← isSpent_iff]
            simpa using hspent
          have hrest : rest <:+ source := h
          obtain ⟨span, context, -, hfinish⟩ := finish_leftover m hcomplete hleft hrest
          simp [hfinish]
      | false =>
          rw [finish, hcond]
          cases htree : Tree.ofMatch m <;> simp [treeOf, htree, Report.lift, Except.mapError]

-- Only an exhausted nesting limit is reported as recursion.
theorem outcome_ne_recursion (hcut : (p.invoke env limit source).outcome ≠ .error .nestingExceeded)
    (hsuffix : ∀ result, (p.invoke env limit source).outcome = .ok result →
      result.rest <:+ source) :
    (r.run env limit p source).outcome ≠ .error .recursion ∧
      (r.parse env limit p source).outcome ≠ .error .recursion := by
  by_cases hrefuses : r.Refuses source
  · rw [parse, run_of_refuses hrefuses, Report.fail_bind]
    simp [Report.fail]
  · rw [outcome_parse hrefuses, outcome_run hrefuses]
    cases hrun : (p.invoke env limit source).outcome with
    | error f => cases f <;> simp_all [Except.mapError, asRecursion, bind, Except.bind]
    | ok result =>
        exact ⟨by simp [Except.mapError], finish_ne_recursion (hsuffix result hrun)⟩

-- The outcomes of a parse exclude one another, and one of them comes about. Nothing goes wrong in
-- reporting a stop, and no match turns out to be none.
theorem parse_outcomes (hp : Admissible env p) (r : Runner) (limit : Nat) (source : Text) :
    (r.Refuses source →
      r.parse env limit p source = Report.fail (.sourceTooLong source.length r.maxSourceSize)) ∧
    (¬r.Refuses source →
      match (p.invoke env limit source).outcome with
      | .error .nestingExceeded => (r.parse env limit p source).outcome = .error .recursion
      | .error f => (r.parse env limit p source).outcome = .error (.fault f)
      | .ok (.failed rest _) => ∃ span context, Located source rest span context ∧
          (r.parse env limit p source).outcome = .error (.rejected
            ⟨Failure.rejection span (Failure.shown rest) context, source, rest⟩)
      | .ok (.ok rest m) =>
          if r.requireComplete = true ∧ Text.skipBlanks rest ≠ [] then
            ∃ span context, Located source rest span context ∧
              (r.parse env limit p source).outcome = .error (.incomplete
                ⟨Failure.leftover span (Failure.shown rest) context, source, rest⟩)
          else
            ∃ built, Tree.ofMatch m = .ok built ∧
              (r.parse env limit p source).outcome = .ok built) := by
  constructor
  · intro hrefuses
    rw [parse, run_of_refuses hrefuses, Report.fail_bind]
  · intro hfits
    rw [outcome_parse hfits]
    cases hrun : (p.invoke env limit source).outcome with
    | error f => cases f <;> rfl
    | ok result =>
        obtain ⟨hsuffix, hgenuine⟩ := invoke_admissible hp hrun
        cases result with
        | failed rest v => exact finish_failed v hsuffix
        | ok rest m =>
            dsimp only
            by_cases hleft : r.requireComplete = true ∧ Text.skipBlanks rest ≠ []
            · rw [if_pos hleft]
              exact finish_leftover m hleft.1 hleft.2 hsuffix
            · rw [if_neg hleft]
              exact finish_done hleft hgenuine

-- A colon, a digit read by hand and a mark that stands nowhere in the source, back to front.
def reading : Parser :=
  .sequence [.symbol [':'], .custom .digit "digit", .succeed (.leaf ['!'])] .backwards

theorem reading_admissible : Admissible (.ofTargets []) reading := by
  have hdigit : ∀ t result, Custom.digit.apply t = .ok result →
      result.rest <:+ t ∧ result.Genuine := by
    intro t result h
    cases t with
    | nil => cases h; exact ⟨List.suffix_refl _, trivial⟩
    | cons c rest =>
        simp only [Custom.digit, Except.ok.injEq] at h
        subst h
        split
        · exact ⟨List.suffix_cons c rest, .leaf [c]⟩
        · exact ⟨List.suffix_refl _, trivial⟩
  have hbackwards : Reducer.backwards.YieldsMatches := by
    rintro ms m hms ⟨⟩
    exact .seq fun n hn => hms n (List.mem_reverse.mp hn)
  let items := [Parser.symbol [':'], .custom .digit "digit", .succeed (.leaf ['!'])]
  refine Parser.throughout_of_closed (reading :: items) (by simp) ?_ ?_
  · simp only [items, List.forall_mem_cons]
    exact ⟨⟨trivial, hbackwards⟩, ⟨trivial, trivial⟩,
      ⟨fun t result h => (hdigit t result h).1, fun t rest m h => (hdigit t _ h).2⟩,
      ⟨trivial, .leaf _⟩, by simp⟩
  · have hitems : items ⊆ reading :: items := by simp
    simp only [items, List.forall_mem_cons]
    exact ⟨fun q hq => hitems hq, fun _ hq => hq.elim, fun _ hq => hq.elim, fun _ hq => hq.elim,
      by simp⟩

theorem parse_outcomes_reading :
    Refuses ⟨1, true⟩ [':', '7'] ∧
      Runner.parse ⟨1, true⟩ (.ofTargets []) 9 reading [':', '7'] =
        Report.fail (.sourceTooLong 2 1) ∧
      ∃ span context, Located [':', '7', '\n', 'x'] ['\n', 'x'] span context ∧
        (standard.parse (.ofTargets []) 9 reading [':', '7', '\n', 'x']).outcome =
          .error (.incomplete ⟨Failure.leftover span (Failure.shown ['\n', 'x']) context,
            [':', '7', '\n', 'x'], ['\n', 'x']⟩) := by
  have hrefuses : Refuses ⟨1, true⟩ [':', '7'] := by simp [Refuses]
  have hfits : ¬standard.Refuses [':', '7', '\n', 'x'] := by
    simp [Refuses, standard, ofOptions, defaultSourceSize]
  have hrun : (reading.invoke (.ofTargets []) 9 [':', '7', '\n', 'x']).outcome =
      .ok (.ok ['\n', 'x'] (.seq [.leaf ['!'], .leaf ['7'], .leaf [':']])) := rfl
  have hleft : standard.requireComplete = true ∧ Text.skipBlanks ['\n', 'x'] ≠ [] :=
    ⟨rfl, by decide⟩
  have hlong := (parse_outcomes reading_admissible ⟨1, true⟩ 9 [':', '7']).1 hrefuses
  have hleftover := (parse_outcomes reading_admissible standard 9 [':', '7', '\n', 'x']).2 hfits
  rw [hrun] at hleftover
  dsimp only at hleftover
  rw [if_pos hleft] at hleftover
  exact ⟨hrefuses, hlong, hleftover⟩

end Descent.Runner
