import Descent.Text.Basic
import Descent.Text.Grouped

namespace Descent

inductive PositionError where
  | negative (pos : Int)
  | notASuffix
deriving Repr, DecidableEq

namespace PositionError

def message : PositionError → String
  | .negative pos => "Position must be >= 0, got " ++ toString pos
  | .notASuffix => "remaining input is not a suffix of the source"

end PositionError

namespace Position

-- Offsets count from zero, lines and columns from one.
def consumedOffset (source remaining : Text) : Except PositionError Nat :=
  if remaining.isSuffixOf source then .ok (source.length - remaining.length) else .error .notASuffix

-- The line and column just behind a text.
def behind (before : Text) : Nat × Nat :=
  (before.count '\n' + 1, (before.reverse.takeWhile (· != '\n')).length + 1)

-- An offset past the end counts as the end.
def lineCol (source : Text) (pos : Int) : Except PositionError (Nat × Nat) :=
  if pos < 0 then .error (.negative pos) else .ok (behind (source.take pos.toNat))

def contextLines : Int := 2

-- The number of a row in a column of at least four places, and the bar.
def rowHead (number : Nat) : Text :=
  Text.padLeft 4 (Nat.toDigits 10 number) ++ [' ', '|', ' ']

-- The caret's row has its bar below the bar of the row above.
def caretRow (number column : Nat) : Text :=
  List.replicate ((rowHead number).length - 2) ' ' ++ ['|', ' '] ++
    List.replicate (column - 1) ' ' ++ ['^']

-- The rows of the lines numbered from `first` to `last`, the caret's row behind that of `line`.
def excerptRows (lines : List Text) (line column : Nat) (first last : Int) : List Text :=
  (lines.zipIdx 1).flatMap fun (text, number) =>
    if first ≤ number ∧ number ≤ last then
      let row := rowHead number ++ text
      if number = line then [row, caretRow line column] else [row]
    else []

def excerpt (source : Text) (pos : Int) (context : Int) : Except PositionError Text := do
  let (line, column) ← lineCol source pos
  return List.intercalate ['\n']
    (excerptRows source.lines line column (line - context) (line + context))

end Position

end Descent
