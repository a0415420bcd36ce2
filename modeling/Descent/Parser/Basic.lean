import Descent.Grammar.Expr

namespace Descent

-- What a continuation chose: a parser, a fault, or an expression still to be built.
inductive Next (P : Type) where
  | parser (p : P)
  | fault (f : Fault)
  | build (e : Expr)

-- Rules refer to the parsers below them directly, to placeholders by their slot, and to parsers
-- that are looked up on every call by their id, so that a grammar is finite data even where it is
-- recursive.
inductive Rule (P : Type) where
  | char (c : Char)
  | pattern (use : PatternUse) (p : Pattern)
  | symbol (literal : Text)
  | whiteSpace
  | sequence (items : List P) (reducer : Reducer)
  | choice (alternatives : List P)
  | attempt (inner : P)
  | maybe (inner : P)
  | many (inner : P)
  | many1 (inner : P)
  | sepBy (element following : P)
  | label (name : String) (inner : P)
  | lexeme (inner : P)
  | bind (first : P) (next : Match → Next P)
  | succeed (value : Match)
  | forward (slot : Nat) (name : String)
  | follow (slot : Nat) (name : String)
  | lookUp (id : String)
  | custom (function : Custom)

namespace Rule

-- The name of the function behind a rule, which a parser without a name of its own shows.
def functionName {P : Type} : Rule P → String
  | .char _ => "_char"
  | .pattern .front _ => "_regex"
  | .pattern .upto _ => "_upto"
  | .pattern .greedyUpto _ => "_greedy_upto"
  | .symbol _ => "_symbol"
  | .whiteSpace => "_white_space"
  | .sequence _ _ => "_sequence"
  | .choice _ => "_choice"
  | .attempt _ => "_try"
  | .maybe _ => "_maybe"
  | .many _ => "_many"
  | .many1 _ => "_many1"
  | .sepBy _ _ => "_sep_by"
  | .label _ _ => "_label"
  | .lexeme _ => "_lexeme"
  | .bind _ _ => "_bind"
  | .succeed _ => "_return"
  | .forward _ _ => "_invoke_target"
  | .follow _ _ => "_invoke_target"
  | .lookUp _ => "_lazy"
  | .custom f => f.functionName.getD "<parser>"

-- A copy of a placeholder follows it without being one.
def copied {P : Type} : Rule P → Rule P
  | .forward slot name => .follow slot name
  | r => r

end Rule

-- The name may be any value; there are combinators that only take a parser whose name is a text.
structure Parser where
  name : Plain
  rule : Rule Parser

namespace Parser

-- The name as it stands in a message or in another name.
def shown (p : Parser) : String :=
  p.name.display

-- A parser under a name, or under its function's name if the given one is as good as none.
def ofRule (name : Plain) (rule : Rule Parser) : Parser :=
  ⟨if name.truthy then name else rule.functionName, rule⟩

def named (name : Plain) (p : Parser) : Parser :=
  ofRule name p.rule.copied

def isForward (p : Parser) : Bool :=
  match p.rule with
  | .forward _ _ => true
  | _ => false

def typeName (p : Parser) : String :=
  if p.isForward then "Forward" else "Parser"

def render (p : Parser) : String :=
  "<Parser " ++ p.shown ++ ">"

end Parser

end Descent
