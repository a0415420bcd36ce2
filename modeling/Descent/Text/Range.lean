import Descent.Text.Basic

namespace Descent.Text

-- Classes of characters are lists of inclusive ranges of code points, as of Unicode 15.1. The ranges
-- are sorted: a code point below the first of them is in none.
def within : List (Nat × Nat) → Nat → Bool
  | [], _ => false
  | (lo, hi) :: rest, n => if n < lo then false else n ≤ hi || within rest n

theorem within_first {lo hi n : Nat} {rest : List (Nat × Nat)} (hlow : lo ≤ n) (hhigh : n ≤ hi) :
    within ((lo, hi) :: rest) n = true := by
  have hnot : ¬n < lo := by omega
  simp [within, hnot, hhigh]

theorem within_of_mem {rs : List (Nat × Nat)} {n : Nat} (h : within rs n = true) :
    ∃ r ∈ rs, r.1 ≤ n ∧ n ≤ r.2 := by
  induction rs with
  | nil => simp [within] at h
  | cons r rest ih =>
      obtain ⟨lo, hi⟩ := r
      unfold within at h
      split at h
      · cases h
      · by_cases hhi : n ≤ hi
        · exact ⟨(lo, hi), by simp, by omega, hhi⟩
        · obtain ⟨r, hr, hb⟩ := ih (by simpa [hhi] using h)
          exact ⟨r, by simp [hr], hb⟩

end Descent.Text
