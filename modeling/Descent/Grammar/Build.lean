import Descent.Parser.Combinators

namespace Descent

-- What an expression stands for: a parser, or a plain value handed on as it is.
inductive Item where
  | parser (p : Parser)
  | plain (v : Plain)

namespace Item

def typeName : Item → String
  | .parser p => p.typeName
  | .plain v => v.typeName

end Item

namespace Parser

def symbol? : Plain → Except Fault Parser
  | .text s =>
      if s.isEmpty then .error (.mistake (.emptyLiteral "symbol")) else .ok (symbol s.toList)
  | _ => .error (.mistake (.emptyLiteral "symbol"))

def char? (v : Plain) : Except Fault Parser :=
  match v with
  | .text s => match s.toList with
    | [c] => .ok (char c)
    | _ => .error (.mistake (.invalidCharacter v))
  | _ => .error (.mistake (.invalidCharacter v))

def pattern? [CharNames] (use : PatternUse) (source : Plain) (flags : Pattern.Flags) : Except Fault Parser :=
  match source with
  | .text s => match Pattern.read flags s.toList with
    | .ok p => .ok (pattern use p)
    | .error e => .error (.unreadablePattern e)
  | .list _ | .dict _ => .error (.unhashable source.typeName)
  | _ => .error .patternNotText

end Parser

namespace Item

-- A string stands for the symbol of that string.
def asParser : Item → Except Fault Parser
  | .parser p => .ok p
  | .plain (.text s) => Parser.symbol? (.text s)
  | .plain v => .error (.mistake (.notAParser v.typeName))

-- A continuation's answer is taken as it is: a string does not stand for a symbol here.
def callable : Item → Except Fault Parser
  | .parser p => .ok p
  | .plain v => .error (.notCallable v.typeName)

def next (item : Item) : Next Parser :=
  match item.callable with
  | .ok p => .parser p
  | .error f => .fault f

-- The characters of a string one by one, the items of a list, or the keys of a dictionary.
def elements : Item → Except Fault (List Item)
  | .plain (.text s) => .ok (s.toList.map fun c => .plain (.text (String.singleton c)))
  | .plain (.list vs) => .ok (vs.map .plain)
  | .plain (.dict entries) => .ok (entries.map fun e => .plain (.text e.1))
  | item => .error (.notIterable item.typeName)

end Item

namespace Parser

-- Where names are joined, the first one that is no text is refused, with its position.
def checkNames : Nat → List Parser → Except Fault Unit
  | _, [] => .ok ()
  | i, p :: ps => match p.name.typeIfNoText with
    | some typeName => .error (.nameNotText i typeName)
    | none => checkNames (i + 1) ps

def sequence? (items : List Item) (reducer : Reducer) : Except Fault Parser := do
  let ps ← items.mapM (·.asParser)
  checkNames 0 ps
  return sequence ps reducer

def choice? (alternatives : List Item) : Except Fault Parser := do
  if alternatives.isEmpty then throw (.mistake (.emptyAlternatives "choice"))
  let ps ← alternatives.mapM (·.asParser)
  checkNames 0 ps
  return choice ps

def oneOf? (literals : Plain) : Except Fault Parser := do
  let options ← (Item.plain literals).elements
  if options.isEmpty then throw (.mistake (.emptyAlternatives "one_of"))
  let texts ← options.mapM fun
    | .plain (.text s) =>
        if s.isEmpty then throw (Fault.mistake (.emptyLiteral "symbol")) else pure s.toList
    | _ => throw (Fault.mistake (.emptyLiteral "symbol"))
  return oneOf texts

def label? (name : Plain) (operand : Item) : Except Fault Parser :=
  match name with
  | .text s =>
      if s.isEmpty then .error (.mistake (.invalidLabel name))
      else (operand.asParser).map (label s)
  | _ => .error (.mistake (.invalidLabel name))

def ofUnary : Unary → Parser → Parser
  | .attempt => attempt
  | .maybe => maybe
  | .many => many
  | .many1 => many1
  | .parens => parens
  | .lexeme => lexeme

-- The parsers whose names are joined to build a combinator of one operand.
def joinedBy : Unary → Parser → List Parser
  | .parens, p => [char '(', p, char ')']
  | _, _ => []

def unary? (op : Unary) (operand : Item) : Except Fault Parser := do
  let p ← operand.asParser
  checkNames 0 (joinedBy op p)
  return ofUnary op p

def sepBy? (separator element : Item) : Except Fault Parser := do
  let p ← separator.asParser
  let q ← element.asParser
  checkNames 0 [p, q]
  return sepBy p q

def ofStock : Stock → Parser
  | .word => word
  | .natural => natural
  | .comma => comma
  | .semi => semi
  | .whiteSpace => whiteSpace

-- The bar makes a choice of a parser and whatever stands right of it. Between plain values it has
-- the meaning it has for them.
def either? : Item → Item → Except Fault Item
  | .parser p, b => (choice? [.parser p, b]).map .parser
  | .plain a, .plain b => match a.union? b with
    | some v => .ok (.plain v)
    | none => .error (.notCombinable a.typeName b.typeName)
  | .plain a, .parser p => .error (.notCombinable a.typeName p.typeName)

-- A pattern that takes as many characters as the text of a leaf says.
def counted? [CharNames] : Match → Except Fault Parser
  | .leaf t => pattern? .front (.text (String.ofList ('.' :: '\x7b' :: t ++ ['\x7d']))) {}
  | m => .error (.withoutText m.typeName)

def again? (m : Match) : Except Fault Parser :=
  match m.leaves with
  | t :: _ => symbol? (.text (String.ofList t))
  | [] => .error .noSuchItem

end Parser

namespace Next

def ofExcept : Except Fault Parser → Next Parser
  | .ok p => .parser p
  | .error f => .fault f

-- Runs the item behind a match and pairs the two matches.
def pairing (item : Item) (m : Match) : Next Parser :=
  ofExcept (item.asParser.map fun p => p.bind fun n => .parser (Parser.succeed (.seq [m, n])))

end Next

variable [CharNames]

-- The operands of a combinator are built from left to right before the combinator looks at them;
-- then it makes its own checks in the order of its arguments. The first mistake ends the
-- construction.
mutual

def Expr.build (lookUp : String → Except Fault Parser) : Expr → Except Fault Item
  | .plain v => return .plain v
  | .stock which => return .parser (Parser.ofStock which)
  | .char c => return .parser (← Parser.char? c)
  | .pattern use source flags => return .parser (← Parser.pattern? use source flags)
  | .symbol literal => return .parser (← Parser.symbol? literal)
  | .sequence items reducer => do
      let built ← Expr.buildAll lookUp items
      return .parser (← Parser.sequence? built reducer)
  | .sequenceOf items reducer => do
      let built ← items.build lookUp
      return .parser (← Parser.sequence? (← built.elements) reducer)
  | .choice alternatives => do
      let built ← Expr.buildAll lookUp alternatives
      return .parser (← Parser.choice? built)
  | .either left right => do
      let a ← left.build lookUp
      let b ← right.build lookUp
      Parser.either? a b
  | .unary op operand => do
      let built ← operand.build lookUp
      return .parser (← Parser.unary? op built)
  | .sepBy separator element => do
      let sep ← separator.build lookUp
      let elem ← element.build lookUp
      return .parser (← Parser.sepBy? sep elem)
  | .oneOf literals => return .parser (← Parser.oneOf? literals)
  | .label name operand => do
      let built ← operand.build lookUp
      return .parser (← Parser.label? name built)
  | .named name operand => do
      match ← operand.build lookUp with
      | .parser p => return .parser (p.named name)
      | .plain v => throw (.cannotRename v.typeName)
  | .bind first next => do
      let built ← first.build lookUp
      let k ← next.build lookUp
      return .parser ((← built.asParser).bind k)
  | .succeed value => return .parser (Parser.succeed value)
  | .ref id => return .parser (← lookUp id)
  | .lookUp id name => return .parser (Parser.lookUp id name)
  | .custom function name => return .parser (Parser.custom function name)
  | .asParser operand => do
      let built ← operand.build lookUp
      return .parser (← built.asParser)

def Expr.buildAll (lookUp : String → Except Fault Parser) : List Expr → Except Fault (List Item)
  | [] => return []
  | e :: es => do
      let item ← e.build lookUp
      return item :: (← Expr.buildAll lookUp es)

-- What is built with the bind, and what is left to the call.
def Continuation.build (lookUp : String → Except Fault Parser) :
    Continuation → Except Fault (Match → Next Parser)
  | .constant e => do
      let item ← e.build lookUp
      return fun _ => item.next
  | .rebuilt e => return fun _ => .build e
  | .counted => return fun m => .ofExcept (Parser.counted? m)
  | .again => return fun m => .ofExcept (Parser.again? m)
  | .result => return fun m => .parser (Parser.succeed m)
  | .paired e => do
      let item ← e.build lookUp
      return Next.pairing item
  | .onText text e otherwise => do
      let item ← e.build lookUp
      let k ← otherwise.build lookUp
      return fun m => if m.leaves.flatten = text then item.next else k m

end

namespace Expr

-- The parser that an expression stands for where a parser is wanted.
def parser (lookUp : String → Except Fault Parser) (e : Expr) : Except Fault Parser := do
  (← e.build lookUp).asParser

end Expr

end Descent
