namespace Descent

-- What a parser leaves of its input is then a suffix in the plain sense of lists. Names and
-- messages, which are never taken apart, stay strings.
abbrev Text := List Char

namespace Text

-- A line ends at a line feed and nowhere else.
def lines : Text → List Text
  | [] => [[]]
  | c :: rest =>
      if c = '\n' then [] :: lines rest
      else match lines rest with
        | [] => [[c]]
        | line :: more => (c :: line) :: more

theorem lines_ne_nil (t : Text) : lines t ≠ [] := by
  induction t with
  | nil => simp [lines]
  | cons c rest ih =>
      unfold lines
      split
      · simp
      · split <;> simp

-- Nothing but the line feeds is lost.
theorem intercalate_lines (t : Text) : List.intercalate ['\n'] (lines t) = t := by
  induction t with
  | nil => rfl
  | cons c rest ih =>
      unfold lines
      cases hl : lines rest with
      | nil => exact absurd hl (lines_ne_nil rest)
      | cons line more =>
          rw [hl] at ih
          by_cases hc : c = '\n'
          · simp [hc, List.intercalate_cons_cons, ih]
          · cases more with
            | nil => simpa [hc, List.intercalate] using ih
            | cons next others =>
                simp only [List.intercalate_cons_cons] at ih
                simp [hc, List.intercalate_cons_cons, ← ih]

theorem length_lt_of_suffix {t u : Text} (h : u <:+ t) (hmoved : u ≠ t) : u.length < t.length :=
  Nat.lt_of_not_ge fun hle => hmoved (h.eq_of_length_le hle)

-- What one-line messages show of a text: at most thirty characters, the last three of a longer
-- one replaced by dots.
def shownWidth : Nat := 30

def abbreviate (t : Text) : Text :=
  if t.length > shownWidth then t.take (shownWidth - 3) ++ ['.', '.', '.'] else t

-- Texts written as pieces with a number of repetitions each.
abbrev Pieces := List (Text × Nat)

def Pieces.length (ps : Pieces) : Nat :=
  ps.foldr (fun p n => p.1.length * p.2 + n) 0

def Pieces.toText (ps : Pieces) : Text :=
  ps.foldr (fun p t => Nat.repeat (p.1 ++ ·) p.2 t) []

end Text

end Descent
