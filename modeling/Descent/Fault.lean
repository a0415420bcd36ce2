import Descent.Mistake
import Descent.Pattern.Reader

namespace Descent

-- What stops the construction of a grammar, or a parser in the middle of its work. A text that does
-- not match is no fault but an ordinary result.
inductive Fault where
  | mistake (m : Mistake)
  | unreadablePattern (e : Pattern.ReadError)
  | patternNotText
  | unhashable (typeName : String)
  | notIterable (typeName : String)
  | notCallable (typeName : String)
  | notCombinable (left right : String)
  | cannotRename (typeName : String)
  | cannotDefine (typeName : String)
  | withoutText (typeName : String)
  | withoutLength (typeName : String)
  | notJoinable (typeName : String)
  | nameNotText (index : Nat) (typeName : String)
  | unbound (id : String)
  | noSuchItem
  | indexTooLarge
  | nestingExceeded
  -- More rounds than are counted, which takes parsers that lengthen their text.
  | endlessRepetition
deriving Repr

namespace Fault

def message : Fault → String
  | .mistake m => m.message
  | .unreadablePattern .malformed => "unreadable pattern"
  | .unreadablePattern .tooManyRounds => "the repetition number is too large"
  | .unreadablePattern .clashingAlphabets => "ASCII and UNICODE flags are incompatible"
  | .patternNotText => "first argument must be string or compiled pattern"
  | .unhashable t => "unhashable type: '" ++ t ++ "'"
  | .notIterable t => "'" ++ t ++ "' object is not iterable"
  | .notCallable t => "'" ++ t ++ "' object is not callable"
  | .notCombinable l r => "unsupported operand type(s) for |: '" ++ l ++ "' and '" ++ r ++ "'"
  | .cannotRename t => "'" ++ t ++ "' object has no attribute 'named'"
  | .cannotDefine t => "'" ++ t ++ "' object has no attribute 'define'"
  | .withoutText t => "'" ++ t ++ "' object has no attribute 'text'"
  | .withoutLength t => "object of type '" ++ t ++ "' has no len()"
  | .nameNotText i t =>
      "sequence item " ++ toString i ++ ": expected str instance, " ++ t ++ " found"
  | .notJoinable t => "can only concatenate " ++ t ++ " (not \"str\") to " ++ t
  | .unbound id => Text.quoted id.toList
  | .noSuchItem => "list index out of range"
  | .indexTooLarge => "cannot fit 'int' into an index-sized integer"
  | .nestingExceeded => "too many nested invocations"
  | .endlessRepetition => "endless repetition"

end Fault

end Descent
