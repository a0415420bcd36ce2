import Descent.Text.Range

namespace Descent.Text

-- The one class that tokens skip, that patterns name, and that may be left over at the end of a
-- complete source.
def blankRanges : List (Nat × Nat) :=
  [(0x09, 0x0D), (0x1C, 0x20), (0x85, 0x85), (0xA0, 0xA0), (0x1680, 0x1680), (0x2000, 0x200A),
   (0x2028, 0x2029), (0x202F, 0x202F), (0x205F, 0x205F), (0x3000, 0x3000)]

def isBlank (c : Char) : Bool :=
  within blankRanges c.toNat

-- The class narrowed to ASCII leaves out the four information separators.
def isAsciiBlank (c : Char) : Bool :=
  within [(0x09, 0x0D), (0x20, 0x20)] c.toNat

def skipBlanks (t : Text) : Text :=
  t.dropWhile isBlank

theorem skipBlanks_suffix (t : Text) : skipBlanks t <:+ t :=
  List.dropWhile_suffix _

theorem skipBlanks_idem (t : Text) : skipBlanks (skipBlanks t) = skipBlanks t := by
  induction t with
  | nil => rfl
  | cons c rest ih =>
      by_cases h : isBlank c
      · simpa [skipBlanks, List.dropWhile_cons, h] using ih
      · simp [skipBlanks, h]

end Descent.Text
