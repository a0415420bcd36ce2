import Descent.Pattern.Matcher

namespace Descent.Pattern

theorem run_one_nil (test : CharTest) (s : Cursor) (k : Goal) (h : s.after = []) :
    (Node.one test).run s k = none := by
  simp [Node.run, h]

theorem run_one_cons (test : CharTest) (s : Cursor) (k : Goal) {c : Char} {rest : Text}
    (h : s.after = c :: rest) :
    (Node.one test).run s k =
      if test.accepts c then
        k ⟨c :: s.before, rest, s.passed + 1, s.groups⟩
      else none := by
  simp [Node.run, h]

-- Enough rounds are allowed, so the run ends at the first character that does not pass.
theorem greedy_one (test : CharTest) (fuel : Nat) (last : Option Nat) (s : Cursor)
    (hfuel : s.after.length < fuel) (hlast : last ≠ some s.passed) :
    (greedy (Node.one test).run some fuel none last s).map (·.passed) =
      some (s.passed + (s.after.takeWhile test.accepts).length) := by
  induction fuel generalizing last s with
  | zero => omega
  | succ fuel ih =>
      unfold greedy
      simp only [Option.map_none, reduceCtorEq, hlast, or_self, if_false]
      cases hs : s.after with
      | nil => simp [run_one_nil test s _ hs]
      | cons c rest =>
          rw [run_one_cons test s _ hs]
          by_cases hc : test.accepts c
          · have hnext := ih (some s.passed) ⟨c :: s.before, rest, s.passed + 1, s.groups⟩
              (by simpa [hs] using hfuel) (by simp)
            cases hg : greedy (Node.one test).run some fuel none (some s.passed)
                ⟨c :: s.before, rest, s.passed + 1, s.groups⟩ with
            | none => simp [hg] at hnext
            | some r =>
                simp only [hg, Option.map_some, Option.some.injEq] at hnext
                simp only [hc, if_true, Option.map_some, List.takeWhile_cons, List.length_cons, hnext,
                  Option.some.injEq]
                omega
          · simp [hc]

-- A repeated test of one character fails on an empty run, and splits off the longest run otherwise.
theorem front?_oneOrMore (source : Text) (test : CharTest) (t : Text) :
    front? ⟨source, .times 1 none .greedy (.one test)⟩ t =
      if t.takeWhile test.accepts = [] then none
      else some (t.takeWhile test.accepts, t.dropWhile test.accepts) := by
  cases t with
  | nil => rfl
  | cons c rest =>
      have hrun : length? ⟨source, .times 1 none .greedy (.one test)⟩ [] (c :: rest) =
          if test.accepts c then some (1 + (rest.takeWhile test.accepts).length) else none := by
        simp only [length?, Node.run, rounds, required]
        by_cases hc : test.accepts c
        · simp only [hc, if_true, Option.map_none]
          exact greedy_one test _ none ⟨[c], rest, 0 + 1, []⟩ (by simp) (by simp)
        · simp [hc]
      simp only [front?, hrun]
      by_cases hc : test.accepts c
      · have htake : rest.take (rest.takeWhile test.accepts).length =
            rest.takeWhile test.accepts :=
          (List.prefix_iff_eq_take.mp (List.takeWhile_prefix test.accepts)).symm
        have hdrop : rest.drop (rest.takeWhile test.accepts).length =
            rest.dropWhile test.accepts := by
          have hsplit := List.take_append_drop (rest.takeWhile test.accepts).length rest
          rw [htake] at hsplit
          exact List.append_cancel_left (hsplit.trans List.takeWhile_append_dropWhile.symm)
        simp [hc, Nat.add_comm 1, htake, hdrop]
      · simp [hc]

end Descent.Pattern
