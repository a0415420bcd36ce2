import Descent.Proofs.Lexical
import Descent.Proofs.LookingAhead
import Mathlib.Order.Bounds.Basic

namespace Descent

namespace Pattern

variable {p : Pattern} {before t : Text} {c : Char} {i : Nat}

-- The pattern matches behind the first `i` characters of a text, which itself stands behind `before`.
def FitsAt (p : Pattern) (before t : Text) (i : Nat) : Prop :=
  i ≤ t.length ∧ p.matchesAt ((t.take i).reverse ++ before) (t.drop i)

-- The places where the pattern matches in a text of its own, up to the end of it.
def places (p : Pattern) (t : Text) : Set Nat :=
  {i | p.FitsAt [] t i}

theorem fitsAt_zero : p.FitsAt before t 0 ↔ p.matchesAt before t := by
  simp [FitsAt]

theorem fitsAt_succ : p.FitsAt before (c :: t) (i + 1) ↔ p.FitsAt (c :: before) t i := by
  simp [FitsAt]

theorem not_fitsAt_nil (hend : ¬p.matchesAt before []) (i : Nat) : ¬p.FitsAt before [] i := by
  cases i with
  | zero => exact fitsAt_zero.not.mpr hend
  | succ i => exact fun h => Nat.not_succ_le_zero i h.1

theorem not_fitsAt_cons (hfront : ¬p.matchesAt before (c :: t))
    (hlater : ∀ i, ¬p.FitsAt (c :: before) t i) (i : Nat) : ¬p.FitsAt before (c :: t) i := by
  cases i with
  | zero => exact fitsAt_zero.not.mpr hfront
  | succ i => exact fitsAt_succ.not.mpr (hlater i)

theorem not_fitsAt_of_firstPlace? (h : p.firstPlace? before t = none) (i : Nat) :
    ¬p.FitsAt before t i := by
  fun_induction firstPlace? p before t generalizing i with
  | case1 => cases h
  | case2 before hend => exact not_fitsAt_nil hend i
  | case3 => cases h
  | case4 before c t hfront ih => exact not_fitsAt_cons hfront (ih (Option.map_eq_none_iff.mp h)) i

theorem isLeast_firstPlace? (h : p.firstPlace? before t = some i) :
    IsLeast {j | p.FitsAt before t j} i := by
  fun_induction firstPlace? p before t generalizing i with
  | case1 before hend =>
      cases h
      exact ⟨fitsAt_zero.mpr hend, fun j _ => Nat.zero_le j⟩
  | case2 => cases h
  | case3 before c t hfront =>
      cases h
      exact ⟨fitsAt_zero.mpr hfront, fun j _ => Nat.zero_le j⟩
  | case4 before c t hfront ih =>
      obtain ⟨i, hi, rfl⟩ := Option.map_eq_some_iff.mp h
      obtain ⟨hmem, hleast⟩ := ih hi
      refine ⟨fitsAt_succ.mpr hmem, fun j hj => ?_⟩
      cases j with
      | zero => exact absurd (fitsAt_zero.mp hj) hfront
      | succ j => exact Nat.succ_le_succ (hleast (fitsAt_succ.mp hj))

theorem not_fitsAt_of_lastPlace? (h : p.lastPlace? before t = none) (i : Nat) :
    ¬p.FitsAt before t i := by
  fun_induction lastPlace? p before t generalizing i with
  | case1 => cases h
  | case2 before hend => exact not_fitsAt_nil hend i
  | case3 => cases h
  | case4 => cases h
  | case5 before c t hlater hfront ih => exact not_fitsAt_cons hfront (ih hlater) i

theorem isGreatest_lastPlace? (h : p.lastPlace? before t = some i) :
    IsGreatest {j | p.FitsAt before t j} i := by
  fun_induction lastPlace? p before t generalizing i with
  | case1 before hend =>
      cases h
      exact ⟨fitsAt_zero.mpr hend, fun j hj => hj.1⟩
  | case2 => cases h
  | case3 before c t n hn ih =>
      cases h
      obtain ⟨hmem, hgreatest⟩ := ih hn
      refine ⟨fitsAt_succ.mpr hmem, fun j hj => ?_⟩
      cases j with
      | zero => exact Nat.zero_le _
      | succ j => exact Nat.succ_le_succ (hgreatest (fitsAt_succ.mp hj))
  | case4 before c t hlater hfront ih =>
      cases h
      refine ⟨fitsAt_zero.mpr hfront, fun j hj => ?_⟩
      cases j with
      | zero => exact Nat.le_refl 0
      | succ j => exact absurd (fitsAt_succ.mp hj) (not_fitsAt_of_lastPlace? hlater j)
  | case5 => cases h

theorem existsUnique_place {j : Nat} (hi : IsLeast (p.places t) i) (hj : IsGreatest (p.places t) j) :
    i = j ↔ ∃! k, k ∈ p.places t := by
  constructor
  · rintro rfl
    exact ⟨i, hi.1, fun k hk => Nat.le_antisymm (hj.2 hk) (hi.2 hk)⟩
  · exact fun honly => honly.unique hi.1 hj.1

-- Whether the pattern matches at a place is up to the text from there on.
def LooksAhead (p : Pattern) : Prop :=
  ∀ before after, p.matchesAt before after = p.matchesAt [] after

end Pattern

variable {use : PatternUse} {env : Env} {p : Pattern} {t rest : Text} {m : Match} {place : Option Nat}

namespace Rule

theorem takePattern_none (h : use.split? p t = Pattern.splitAt? place t) (hplace : place = none) :
    takePattern use p t = .fail t := by
  simp [takePattern, h, Pattern.splitAt?, hplace]

theorem takePattern_some {i : Nat} (h : use.split? p t = Pattern.splitAt? place t) (hplace : place = some i) :
    takePattern use p t = .ok (t.drop i) (.leaf (t.take i)) := by
  simp [takePattern, h, Pattern.splitAt?, hplace]

-- A text divides at the place that is looked for, where there is one.
theorem takePattern_divides (h : use.split? p t = Pattern.splitAt? place t) {good : Nat → Prop}
    (hnone : place = none → ∀ i, ¬p.FitsAt [] t i)
    (hsome : ∀ i, place = some i → i ∈ p.places t ∧ good i) :
    (p.places t = ∅ → takePattern use p t = .fail t) ∧
      ((p.places t).Nonempty → ∃ taken rest, taken ++ rest = t ∧
        takePattern use p t = .ok rest (.leaf taken) ∧ good taken.length) := by
  cases hplace : place with
  | none =>
      refine ⟨fun _ => takePattern_none h hplace, fun ⟨i, hi⟩ => ?_⟩
      exact absurd hi (hnone hplace i)
  | some i =>
      obtain ⟨hi, hgood⟩ := hsome i hplace
      constructor
      · intro hempty
        exact absurd hi (Set.eq_empty_iff_forall_notMem.mp hempty i)
      · intro _
        refine ⟨t.take i, t.drop i, List.take_append_drop i t, takePattern_some h hplace, ?_⟩
        rwa [List.length_take_of_le hi.1]

theorem takePattern_upto (p : Pattern) (t : Text) :
    (p.places t = ∅ → takePattern .upto p t = .fail t) ∧
      ((p.places t).Nonempty → ∃ taken rest, taken ++ rest = t ∧
        takePattern .upto p t = .ok rest (.leaf taken) ∧ IsLeast (p.places t) taken.length) := by
  refine takePattern_divides rfl Pattern.not_fitsAt_of_firstPlace? fun i hplace => ?_
  have hleast : IsLeast (p.places t) i := Pattern.isLeast_firstPlace? hplace
  exact ⟨hleast.1, hleast⟩

theorem takePattern_greedyUpto (p : Pattern) (t : Text) :
    (p.places t = ∅ → takePattern .greedyUpto p t = .fail t) ∧
      ((p.places t).Nonempty → ∃ taken rest, taken ++ rest = t ∧
        takePattern .greedyUpto p t = .ok rest (.leaf taken) ∧ IsGreatest (p.places t) taken.length) := by
  refine takePattern_divides rfl Pattern.not_fitsAt_of_lastPlace? fun i hplace => ?_
  have hgreatest : IsGreatest (p.places t) i := Pattern.isGreatest_lastPlace? hplace
  exact ⟨hgreatest.1, hgreatest⟩

theorem takePattern_front_iff :
    (∃ rest m, takePattern .front p t = .ok rest m) ↔ p.matchesAt [] t := by
  unfold Pattern.matchesAt
  cases hlength : p.length? [] t with
  | none =>
      rw [takePattern_none rfl hlength]
      simp [Result.fail]
  | some n =>
      rw [takePattern_some rfl hlength]
      simp

end Rule

namespace Parser

-- The places of a text from which on a parser succeeds.
def successes (q : Parser) (env : Env) (limit : Nat) (t : Text) : Set Nat :=
  {i | i ≤ t.length ∧ ∃ rest m, (q.invoke env limit (t.drop i)).outcome = .ok (.ok rest m)}

theorem outcome_pattern (use : PatternUse) (p : Pattern) (env : Env) (limit : Nat) (t : Text) :
    ((pattern use p).invoke env (limit + 1) t).outcome = .ok (Rule.takePattern use p t) :=
  (settles_takePattern rfl).outcome _ (Nat.le_add_left 1 limit)

theorem places_of_looksAhead (hp : p.LooksAhead) (env : Env) (limit : Nat) (t : Text) :
    p.places t = (pattern .front p).successes env (limit + 1) t := by
  ext i
  have hfront : p.matchesAt ((t.take i).reverse ++ []) (t.drop i) = p.matchesAt [] (t.drop i) := hp _ _
  simp only [Pattern.places, Pattern.FitsAt, successes, Set.mem_ofPred_eq, outcome_pattern, Except.ok.injEq,
    Rule.takePattern_front_iff, hfront]

-- What is left begins with a match, which is taken next.
theorem outcome_upto_front {taken : Text} (hp : p.LooksAhead) (env : Env) (limit : Nat)
    (hupto : Rule.takePattern .upto p t = .ok rest (.leaf taken)) (htaken : taken ++ rest = t)
    (hmem : taken.length ∈ p.places t) :
    ∃ found left, found ++ left = rest ∧
      ((sequence [pattern .upto p, pattern .front p] .all).invoke env (limit + 2) t).outcome =
        .ok (.ok left (.seq [.leaf taken, .leaf found])) := by
  have hmatches : p.matchesAt [] rest := by
    have hbehind := hmem.2
    rwa [← htaken, List.drop_left, hp] at hbehind
  obtain hfail | ⟨found, left, hfound, hfront⟩ := Rule.takePattern_cases .front p rest
  · obtain ⟨left, m, hok⟩ := Rule.takePattern_front_iff.mpr hmatches
    rw [hfail] at hok
    cases hok
  · refine ⟨found, left, hfound.symm, ?_⟩
    have hfirst : Settles env 1 (pattern .upto p) t _ := settles_takePattern rfl
    have hsecond : Settles env 1 (pattern .front p) rest _ := settles_takePattern rfl
    rw [hupto] at hfirst
    rw [hfront] at hsecond
    have hall : Settles env 2 (sequence [pattern .upto p, pattern .front p] .all) t _ :=
      settles_of_gives trivial (.sequence (.next hfirst (.next hsecond (.done _))) rfl)
    exact hall.outcome _ (Nat.le_add_left 2 limit)

-- A text divides at the first and at the last of the places where a pattern matches, unless there is none.
-- The places of a pattern that looks ahead only can be told from what follows them, and what is left at the
-- first one begins with a match.
theorem upto_least_greedyUpto_greatest (p : Pattern) (env : Env) (limit : Nat) (t : Text) :
    (p.places t = ∅ →
      ((pattern .upto p).invoke env (limit + 1) t).outcome = .ok (.fail t) ∧
      ((pattern .greedyUpto p).invoke env (limit + 1) t).outcome = .ok (.fail t)) ∧
    ((p.places t).Nonempty → ∃ taken rest most last,
      taken ++ rest = t ∧ most ++ last = t ∧
      ((pattern .upto p).invoke env (limit + 1) t).outcome = .ok (.ok rest (.leaf taken)) ∧
      ((pattern .greedyUpto p).invoke env (limit + 1) t).outcome = .ok (.ok last (.leaf most)) ∧
      IsLeast (p.places t) taken.length ∧ IsGreatest (p.places t) most.length ∧
      taken.length ≤ most.length ∧ (taken.length = most.length ↔ ∃! i, i ∈ p.places t) ∧
      (p.LooksAhead →
        IsLeast ((pattern .front p).successes env (limit + 1) t) taken.length ∧
        IsGreatest ((pattern .front p).successes env (limit + 1) t) most.length ∧
        ∃ found left, found ++ left = rest ∧
          ((sequence [pattern .upto p, pattern .front p] .all).invoke env (limit + 2) t).outcome =
            .ok (.ok left (.seq [.leaf taken, .leaf found])))) ∧
    (p.node.looksAhead → p.LooksAhead) := by
  simp only [outcome_pattern]
  obtain ⟨huptoFails, hupto⟩ := Rule.takePattern_upto p t
  obtain ⟨hgreedyFails, hgreedy⟩ := Rule.takePattern_greedyUpto p t
  refine ⟨fun hempty => ?_, fun hplaces => ?_, Pattern.matchesAt_of_looksAhead⟩
  · exact ⟨congrArg Except.ok (huptoFails hempty), congrArg Except.ok (hgreedyFails hempty)⟩
  · obtain ⟨taken, rest, htaken, hfirst, hleast⟩ := hupto hplaces
    obtain ⟨most, last, hmost, hlast, hgreatest⟩ := hgreedy hplaces
    refine ⟨taken, rest, most, last, htaken, hmost, congrArg Except.ok hfirst, congrArg Except.ok hlast,
      hleast, hgreatest, hleast.2 hgreatest.1, ?_, fun hp => ?_⟩
    · exact Pattern.existsUnique_place hleast hgreatest
    · have hsame := places_of_looksAhead hp env limit t
      have hfound := outcome_upto_front hp env limit hfirst htaken hleast.1
      exact ⟨hsame ▸ hleast, hsame ▸ hgreatest, hfound⟩

def semicolon : Pattern :=
  ⟨[';'], .one (.literal .exact ';'.toNat)⟩

-- Of two semicolons the first or the last is left, and of none all is refused.
theorem upto_least_greedyUpto_greatest_semicolon :
    semicolon.places ['a'] = ∅ ∧
      ((pattern .upto semicolon).invoke (.ofTargets []) 1 ['a']).outcome = .ok (.fail ['a']) ∧
      3 ∈ semicolon.places ['a', ';', 'b', ';'] ∧ semicolon.LooksAhead ∧
      ((pattern .upto semicolon).invoke (.ofTargets []) 1 ['a', ';', 'b', ';']).outcome =
        .ok (.ok [';', 'b', ';'] (.leaf ['a'])) ∧
      ((pattern .greedyUpto semicolon).invoke (.ofTargets []) 1 ['a', ';', 'b', ';']).outcome =
        .ok (.ok [';'] (.leaf ['a', ';', 'b'])) ∧
      IsGreatest ((pattern .front semicolon).successes (.ofTargets []) 1 ['a', ';', 'b', ';']) 3 ∧
      ¬∃! i, i ∈ semicolon.places ['a', ';', 'b', ';'] := by
  obtain ⟨hnone, -, hahead⟩ := upto_least_greedyUpto_greatest semicolon (.ofTargets []) 0 ['a']
  obtain ⟨-, hsome, -⟩ := upto_least_greedyUpto_greatest semicolon (.ofTargets []) 0 ['a', ';', 'b', ';']
  have hempty : semicolon.places ['a'] = ∅ :=
    Set.eq_empty_iff_forall_notMem.mpr (Pattern.not_fitsAt_of_firstPlace? (by decide))
  have hplace : 3 ∈ semicolon.places ['a', ';', 'b', ';'] := ⟨by decide, by decide⟩
  obtain ⟨taken, rest, most, last, -, -, hfirst, hlast, -, -, -, honly, hfront⟩ := hsome ⟨3, hplace⟩
  have hupto : ((pattern .upto semicolon).invoke (.ofTargets []) 1 ['a', ';', 'b', ';']).outcome =
      .ok (.ok [';', 'b', ';'] (.leaf ['a'])) := rfl
  have hgreedy : ((pattern .greedyUpto semicolon).invoke (.ofTargets []) 1 ['a', ';', 'b', ';']).outcome =
      .ok (.ok [';'] (.leaf ['a', ';', 'b'])) := rfl
  cases hupto.symm.trans hfirst
  cases hgreedy.symm.trans hlast
  have hp : semicolon.LooksAhead := hahead rfl
  exact ⟨hempty, (hnone hempty).1, hplace, hp, hfirst, hlast, (hfront hp).2.1, honly.not.mp (by decide)⟩

end Parser

end Descent
