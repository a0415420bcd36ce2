import Descent.Proofs.Chaining
import Descent.Proofs.Iterating
import Descent.Proofs.Leaves
import Descent.Proofs.References

namespace Descent

-- On a text and all of its ends a parser comes to a result, and where it succeeds it leaves a shorter end.
def Invocation.Advances (invoke : Invocation) (p : Parser) (t : Text) : Prop :=
  ∀ u, u <:+ t → ∃ r, (invoke p u).outcome = .ok r ∧
    (r.succeeded = true → r.rest <:+ u ∧ r.rest ≠ u)

namespace Invocation.Advances

variable {invoke : Invocation} {p : Parser} {t u : Text} {m : Match}

theorem responds (h : invoke.Advances p t) : invoke.Responds p t := by
  intro u hu
  obtain ⟨r, hr, hleft⟩ := h u hu
  exact ⟨r, hr, fun hok => (hleft hok).1⟩

theorem rest_ne (h : invoke.Advances p t) (hu : (invoke p t).outcome = .ok (.ok u m)) : u ≠ t := by
  obtain ⟨r, hr, hleft⟩ := h t (List.suffix_refl t)
  obtain rfl : r = .ok u m := Except.ok.inj (hr.symm.trans hu)
  exact (hleft rfl).2

theorem of_suffix (h : invoke.Advances p t) (hu : u <:+ t) : invoke.Advances p u :=
  fun v hv => h v (hv.trans hu)

end Invocation.Advances

namespace Match

-- The matches in front of each pair, where pairs go on to the right until an empty sequence.
def spine : Match → Option (List Match)
  | .seq [] => some []
  | .seq [m, tail] => (spine tail).map (m :: ·)
  | _ => none

-- Matches as pairs, one inside the other.
def paired : List Match → Match
  | [] => .seq []
  | m :: ms => .seq [m, paired ms]

theorem spine_paired (ms : List Match) : (paired ms).spine = some ms := by
  induction ms with
  | nil => rfl
  | cons m ms ih => rw [paired, spine, ih]; rfl

theorem leaves_paired (ms : List Match) : (paired ms).leaves = ms.flatMap leaves := by
  induction ms with
  | nil => simp [paired]
  | cons m ms ih => simp [paired, ih]

end Match

namespace Parser

open Match (paired)

variable {env : Env} {limit n : Nat} {slot : Nat} {name : String} {p again : Parser} {t u last : Text}
  {m tail : Match} {ms : List Match} {r : Result}

theorem advances_of_decides {least : Nat} {kind : Match → Prop} (h : Decides env limit p (least + 1) kind)
    (t : Text) : Invocation.Advances (invoke env limit) p t := by
  intro u _
  rcases h u with hfail | ⟨rest, m, hok, hlength, -⟩
  · exact ⟨_, hfail.outcome limit (Nat.le_refl _), nofun⟩
  · have hmoved : rest ≠ u := by
      rintro rfl
      omega
    exact ⟨_, hok.outcome limit (Nat.le_refl _), fun _ => ⟨hok.suffix, hmoved⟩⟩

-- One match and the rule again, or nothing.
def rightRecursion (p again : Parser) : Parser :=
  choice [sequence [p, again] .all, succeed (.seq [])]

theorem outcome_pair {o : Option (Text × List Match)}
    (h : (Answers.of (invoke env n)).All [p, again] t o) :
    ((sequence [p, again] .all).invoke env (n + 1) t).outcome = .ok (closing .seq [] t o) := by
  rw [invoke_succ, outcome_noted]
  refine Run.outcome_bind_eq_ok.mpr ⟨o, Rule.runAll_of_all h fun _ _ _ h => h, ?_⟩
  cases o <;> rfl

theorem outcome_rightRecursion
    (h : (Answers.of (invoke env (n + 1))).First [sequence [p, again] .all, succeed (.seq [])] t r) :
    ((rightRecursion p again).invoke env (n + 2) t).outcome = .ok r := by
  rw [invoke_succ, outcome_noted]
  exact Rule.runFirst_of_first h fun _ _ _ h => h

theorem outcome_rightRecursion_stop {v : Match} (h : (p.invoke env n t).outcome = .ok (.failed u v)) :
    ((rightRecursion p again).invoke env (n + 2) t).outcome = .ok (.ok t (.seq [])) := by
  have hpair : ((sequence [p, again] .all).invoke env (n + 1) t).outcome = .ok (.fail t) :=
    outcome_pair (.failed h)
  have hnone : ((succeed (.seq [])).invoke env (n + 1) t).outcome = .ok (.ok t (.seq [])) :=
    outcome_succeed env n _ t
  exact outcome_rightRecursion (.later hpair (.here hnone))

theorem outcome_rightRecursion_step (h : (p.invoke env n t).outcome = .ok (.ok u m))
    (hagain : (again.invoke env n u).outcome = .ok (.ok last tail)) :
    ((rightRecursion p again).invoke env (n + 2) t).outcome = .ok (.ok last (.seq [m, tail])) := by
  have hpair : ((sequence [p, again] .all).invoke env (n + 1) t).outcome =
      .ok (.ok last (.seq [m, tail])) := outcome_pair (.next h (.next hagain (.done last)))
  exact outcome_rightRecursion (.here hpair)

-- Along the rounds of the loop: each round is one pair of the rule.
theorem outcome_of_repeated (hagain : again.RefersTo slot name)
    (htarget : env.target? slot = some (rightRecursion p again))
    (hrounds : (Answers.of (invoke env limit)).Repeated p t last ms)
    (h : Invocation.Advances (invoke env limit) p t) :
    (again.invoke env (limit + 3 * (ms.length + 1)) t).outcome = .ok (.ok last (paired ms)) := by
  induction hrounds with
  | stop hfailed =>
      exact (hagain.outcome_target htarget _ _).trans (outcome_rightRecursion_stop hfailed)
  | idle hok => exact absurd rfl (h.rest_ne hok)
  | @step t u last m ms hok _ _ ih =>
      have hbehind := ih (h.of_suffix (h.responds.rest_suffix hok))
      have hfront : (p.invoke env (limit + 3 * (ms.length + 1)) t).outcome = .ok (.ok u m) :=
        outcome_of_le (Nat.le_add_right _ _) hok
      exact (hagain.outcome_target htarget _ _).trans (outcome_rightRecursion_step hfront hbehind)

-- The loop and the rule take the same matches and leave the same text, unless the nesting limit cuts one of
-- them off. The loop asks for one level above its parser, however many rounds it has.
theorem many_eq_rightRecursion
    (htarget : env.target? slot = some (rightRecursion p (forward slot name)))
    (h : Invocation.Advances (invoke env limit) p t) :
    ∃ rest ms,
      ((many p).invoke env (limit + 1) t).outcome = .ok (.ok rest (.seq ms)) ∧
      ((forward slot name).invoke env (limit + 3 * (ms.length + 1)) t).outcome =
        .ok (.ok rest (paired ms)) ∧
      (paired ms).spine = some ms ∧ (paired ms).leaves = (Match.seq ms).leaves ∧
      ∀ n, (((many p).invoke env n t).outcome = .error .nestingExceeded ∨
          ((many p).invoke env n t).outcome = .ok (.ok rest (.seq ms))) ∧
        (((forward slot name).invoke env n t).outcome = .error .nestingExceeded ∨
          ((forward slot name).invoke env n t).outcome = .ok (.ok rest (paired ms))) := by
  obtain ⟨rest, ms, hrun, hrounds⟩ := Rule.exists_repeated h.responds
  have hmany := outcome_many hrun
  have hagain : (forward slot name).RefersTo slot _ := rfl
  have hforward := outcome_of_repeated hagain htarget hrounds h
  have hleaves : (paired ms).leaves = (Match.seq ms).leaves := by
    rw [Match.leaves_paired, Match.leaves_seq]
  exact ⟨rest, ms, hmany, hforward, Match.spine_paired ms, hleaves,
    fun n => ⟨outcome_or_cut hmany n, outcome_or_cut hforward n⟩⟩

-- Letters in a row, each paired with those behind it.
def pairedLetter : Parser :=
  choice [char 'a', char 'b']

def pairedLetters : Parser :=
  forward 0 "letters"

def pairedEnv : Env :=
  .ofTargets [rightRecursion pairedLetter pairedLetters]

theorem many_eq_rightRecursion_letters :
    pairedEnv.target? 0 = some (rightRecursion pairedLetter pairedLetters) ∧
      Invocation.Advances (invoke pairedEnv 2) pairedLetter ['b', 'a', 'c'] ∧
      ((many pairedLetter).invoke pairedEnv 3 ['b', 'a', 'c']).outcome =
        .ok (.ok ['c'] (.seq [.leaf ['b'], .leaf ['a']])) ∧
      (pairedLetters.invoke pairedEnv 11 ['b', 'a', 'c']).outcome =
        .ok (.ok ['c'] (.seq [.leaf ['b'], .seq [.leaf ['a'], .seq []]])) := by
  have htarget : pairedEnv.target? 0 = some (rightRecursion pairedLetter pairedLetters) := rfl
  have hletters : ∀ q ∈ [char 'a', char 'b'], Decides pairedEnv 1 q 1 fun _ => True := by
    simp only [List.forall_mem_cons]
    exact ⟨(decides_char 'a').mono (Nat.le_refl 1) (Nat.le_refl 1) fun _ _ => trivial,
      (decides_char 'b').mono (Nat.le_refl 1) (Nat.le_refl 1) fun _ _ => trivial, by simp⟩
  have hletter : Decides pairedEnv 2 pairedLetter 1 fun _ => True := .choice rfl hletters
  have hadvances := advances_of_decides hletter ['b', 'a', 'c']
  have hmany : ((many pairedLetter).invoke pairedEnv 3 ['b', 'a', 'c']).outcome =
      .ok (.ok ['c'] (.seq [.leaf ['b'], .leaf ['a']])) := rfl
  obtain ⟨rest, ms, hrun, hforward, -⟩ := many_eq_rightRecursion htarget hadvances
  obtain ⟨rfl, hms⟩ := Result.ok.inj (Except.ok.inj (hrun.symm.trans hmany))
  obtain rfl := Match.seq.inj hms
  exact ⟨htarget, hadvances, hmany, hforward⟩

end Parser

end Descent
