import Descent.Text.Basic

namespace Descent

-- One thousand counts the mistakes of construction, two thousand the errors of a parse, three
-- thousand the exhausted limits.
inductive Code where
  | invalidCharacter
  | emptyLiteral
  | emptyAlternatives
  | invalidLabel
  | notAParser
  | forwardUndefined
  | forwardRedefined
  | parseFailed
  | parseIncomplete
  | recursionLimitExceeded
deriving Repr, DecidableEq

namespace Code

def all : List Code :=
  [.invalidCharacter, .emptyLiteral, .emptyAlternatives, .invalidLabel, .notAParser,
   .forwardUndefined, .forwardRedefined, .parseFailed, .parseIncomplete, .recursionLimitExceeded]

def name : Code → String
  | .invalidCharacter => "INVALID_CHARACTER"
  | .emptyLiteral => "EMPTY_LITERAL"
  | .emptyAlternatives => "EMPTY_ALTERNATIVES"
  | .invalidLabel => "INVALID_LABEL"
  | .notAParser => "NOT_A_PARSER"
  | .forwardUndefined => "FORWARD_UNDEFINED"
  | .forwardRedefined => "FORWARD_REDEFINED"
  | .parseFailed => "PARSE_FAILED"
  | .parseIncomplete => "PARSE_INCOMPLETE"
  | .recursionLimitExceeded => "RECURSION_LIMIT_EXCEEDED"

def number : Code → Nat
  | .invalidCharacter => 1001
  | .emptyLiteral => 1002
  | .emptyAlternatives => 1003
  | .invalidLabel => 1004
  | .notAParser => 1005
  | .forwardUndefined => 1006
  | .forwardRedefined => 1007
  | .parseFailed => 2001
  | .parseIncomplete => 2002
  | .recursionLimitExceeded => 3001

def ofName? (s : String) : Option Code :=
  all.find? (·.name == s)

end Code

-- A stretch of the source, the end excluded, and where it begins.
structure Span where
  start : Nat
  stop : Nat
  line : Nat
  column : Nat
  start_le_stop : start ≤ stop
  line_pos : 1 ≤ line
  column_pos : 1 ≤ column
deriving Repr, DecidableEq

inductive SpanError where
  | negativeStart (start : Int)
  | stopBeforeStart (stop start : Int)
  | lineBelowOne (line : Int)
  | columnBelowOne (column : Int)
deriving Repr, DecidableEq

namespace SpanError

def message : SpanError → String
  | .negativeStart n => "SourceSpan.start must be >= 0, got " ++ toString n
  | .stopBeforeStart n start =>
      "SourceSpan.end (" ++ toString n ++ ") must be >= start (" ++ toString start ++ ")"
  | .lineBelowOne n => "SourceSpan.line must be >= 1 (1-indexed), got " ++ toString n
  | .columnBelowOne n => "SourceSpan.column must be >= 1 (1-indexed), got " ++ toString n

end SpanError

namespace Span

-- The parts are checked in the order in which they are given.
def ofInts (start stop line column : Int) : Except SpanError Span :=
  if h₁ : start < 0 then .error (.negativeStart start)
  else if h₂ : stop < start then .error (.stopBeforeStart stop start)
  else if h₃ : line < 1 then .error (.lineBelowOne line)
  else if h₄ : column < 1 then .error (.columnBelowOne column)
  else .ok ⟨start.toNat, stop.toNat, line.toNat, column.toNat, by omega, by omega, by omega⟩

end Span

-- What went wrong, and optionally the place in the source, a hint and an excerpt.
structure Diagnostic where
  code : Code
  message : String
  span : Option Span := none
  hint : Option String := none
  context : Option Text := none
deriving Repr, DecidableEq

namespace Diagnostic

def headRow (d : Diagnostic) : Text :=
  ("error[" ++ d.code.name ++ "]: " ++ d.message).toList

def spanRows (d : Diagnostic) : List Text :=
  match d.span with
  | some s => [("  --> line " ++ toString s.line ++ ", column " ++ toString s.column).toList]
  | none => []

-- Every row of the excerpt is indented alike; an empty excerpt is left out.
def contextRows (d : Diagnostic) : List Text :=
  match d.context with
  | some (c :: rest) => (Text.lines (c :: rest)).map (' ' :: ' ' :: ·)
  | _ => []

def hintRows (d : Diagnostic) : List Text :=
  match d.hint with
  | some h => if h.isEmpty then [] else [("  = help: " ++ h).toList]
  | none => []

def report (d : Diagnostic) : Text :=
  List.intercalate ['\n'] (d.headRow :: d.spanRows ++ d.contextRows ++ d.hintRows)

end Diagnostic

end Descent
