import Descent.Diagnostic
import Descent.Plain

namespace Descent

-- A span where any value may stand.
def Span.toPlain (s : Span) : Plain :=
  .record "SourceSpan"
    [("start", .int s.start), ("end", .int s.stop), ("line", .int s.line),
     ("column", .int s.column)]

-- What can be wrong with a grammar before it has seen any text.
inductive Mistake where
  | invalidCharacter (value : Plain)
  | emptyLiteral (combinator : String)
  | emptyAlternatives (combinator : String)
  | invalidLabel (name : Plain)
  | notAParser (typeName : String)
  | forwardUndefined (name : String)
  | forwardRedefined (name : String)
deriving Repr

namespace Mistake

def code : Mistake → Code
  | .invalidCharacter _ => .invalidCharacter
  | .emptyLiteral _ => .emptyLiteral
  | .emptyAlternatives _ => .emptyAlternatives
  | .invalidLabel _ => .invalidLabel
  | .notAParser _ => .notAParser
  | .forwardUndefined _ => .forwardUndefined
  | .forwardRedefined _ => .forwardRedefined

def message : Mistake → String
  | .invalidCharacter v => "char() expects exactly one character, got " ++ v.render
  | .emptyLiteral combinator => combinator ++ "() expects a non-empty literal"
  | .emptyAlternatives combinator => combinator ++ "() requires at least one alternative"
  | .invalidLabel name => "Label name must be a non-empty string, got " ++ name.render
  | .notAParser typeName => "Expected a Parser or a literal string, got " ++ typeName
  | .forwardUndefined name => "Forward parser '" ++ name ++ "' was invoked before define()"
  | .forwardRedefined name => "Forward parser '" ++ name ++ "' is already defined"

def hint : Mistake → Option String
  | .invalidCharacter _ => some "Use symbol() or regex() to match longer text"
  | .emptyLiteral _ => some "Use white_space or return_p() to match without consuming text"
  | .notAParser _ => some "Wrap callables with Parser(fn) before composing them"
  | .forwardUndefined _ => some "Call define() on every Forward once the grammar is assembled"
  | _ => none

def diagnostic (m : Mistake) : Diagnostic :=
  ⟨m.code, m.message, none, m.hint, none⟩

end Mistake

end Descent
