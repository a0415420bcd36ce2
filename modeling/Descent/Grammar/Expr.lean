import Descent.Result

namespace Descent

-- Parsers that need no argument.
inductive Stock where
  | word
  | natural
  | comma
  | semi
  | whiteSpace
deriving Repr, DecidableEq

-- What a pattern parser takes: the match at the front, or all before the first or the last match.
inductive PatternUse where
  | front
  | upto
  | greedyUpto
deriving Repr, DecidableEq

-- Combinators of one operand.
inductive Unary where
  | attempt
  | maybe
  | many
  | many1
  | parens
  | lexeme
deriving Repr, DecidableEq

-- The calls by which a grammar is put together, as they are written, with plain values standing
-- wherever a caller may put them.
mutual

inductive Expr where
  | plain (value : Plain)
  | stock (which : Stock)
  | char (c : Plain)
  | pattern (use : PatternUse) (source : Plain) (flags : Pattern.Flags)
  | symbol (literal : Plain)
  | sequence (items : List Expr) (reducer : Reducer)
  | sequenceOf (items : Expr) (reducer : Reducer)
  | choice (alternatives : List Expr)
  | either (left right : Expr)
  | unary (op : Unary) (operand : Expr)
  | sepBy (separator element : Expr)
  | oneOf (literals : Plain)
  | label (name : Plain) (operand : Expr)
  | named (name : Plain) (operand : Expr)
  | bind (first : Expr) (next : Continuation)
  | succeed (value : Match)
  | ref (id : String)
  | lookUp (id : String) (name : Plain)
  | custom (function : Custom) (name : Plain)
  | asParser (operand : Expr)

-- What follows the first parser of a bind: always the same; built anew on every call; as many
-- characters as the match says; the text of the match again; the match itself; something whose
-- match is paired with it; or a choice by its text.
inductive Continuation where
  | constant (e : Expr)
  | rebuilt (e : Expr)
  | counted
  | again
  | result
  | paired (e : Expr)
  | onText (text : Text) (e : Expr) (otherwise : Continuation)

end

end Descent
