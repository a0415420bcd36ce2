import Descent.Example.Declarations
import Descent.Proofs.Lexical

namespace Descent.Example.Declarations

open Descent.Text

abbrev Word := Token isWordChar

-- Something with a comma in front of it.
structure Listed (α : Type) where
  before : Gap
  after : Gap
  item : α

def Listed.text {α : Type} (write : α → Text) (l : Listed α) : Text :=
  l.before.1 ++ ',' :: (l.after.1 ++ write l.item)

structure Tokens (accepts : Char → Bool) where
  first : Token accepts
  others : List (Listed (Token accepts))

namespace Tokens

variable {accepts : Char → Bool}

def items (s : Tokens accepts) : List Text :=
  s.first.1 :: s.others.map (·.item.1)

def text (s : Tokens accepts) : Text :=
  s.first.1 ++ s.others.flatMap (Listed.text Subtype.val)

end Tokens

structure Keyword where
  word : Word
  before : Gap
  after : Gap

def Keyword.text (k : Keyword) : Text :=
  k.word.1 ++ (k.before.1 ++ '=' :: k.after.1)

-- A kind in parentheses. No gap stands behind the opening one.
structure Selector where
  keyword : Option Keyword
  kind : Word
  before : Gap
  after : Gap

def Selector.text (s : Selector) : Text :=
  '(' :: (s.keyword.elim [] Keyword.text ++ (s.kind.1 ++ (s.before.1 ++ ')' :: s.after.1)))

structure Extents where
  numerals : Tokens isAsciiDigit
  after : Gap

def Extents.text (e : Extents) : Text :=
  e.numerals.text ++ e.after.1

-- A dimension may be without extents.
inductive Attribute where
  | simple (name : {t : Text // t ∈ simpleAttributes})
  | dimension (gap : Gap) (extents : Option Extents)

namespace Attribute

def isDimension : Attribute → Bool
  | .simple _ => false
  | .dimension _ _ => true

def text : Attribute → Text
  | .simple name => name.1
  | .dimension gap extents =>
      "dimension".toList ++ (gap.1 ++ '(' :: (extents.elim [] Extents.text ++ [')']))

theorem text_dimension (gap : Gap) (extents : Option Extents) :
    (dimension gap extents).text =
      "dimension".toList ++ (gap.1 ++ '(' :: (extents.elim [] Extents.text ++ [')'])) := rfl

def simpleNames : Attribute → List Text
  | .simple name => [name.1]
  | .dimension _ _ => []

def extentNumerals : Attribute → List Text
  | .simple _ => []
  | .dimension _ extents => extents.elim [] (·.numerals.items)

end Attribute

structure Statement where
  type : {t : Text // t ∈ typeNames}
  afterType : Gap
  selector : Option Selector
  attributes : List (Listed Attribute)
  oneDimension : (attributes.filter (·.item.isDimension)).length ≤ 1
  beforeColons : Gap
  afterColons : Gap
  names : Tokens isWordChar

namespace Statement

def text (s : Statement) : Text :=
  s.type.1 ++ (s.afterType.1 ++ (s.selector.elim [] Selector.text ++
    (s.attributes.flatMap (Listed.text Attribute.text) ++
      (s.beforeColons.1 ++ ':' :: ':' :: (s.afterColons.1 ++ s.names.text)))))

-- Keywords are not kept.
def record (s : Statement) : Record where
  type := .text s.type.1
  kind := s.selector.map fun selector => .text selector.kind.1
  shape := (s.attributes.flatMap (·.item.extentNumerals)).map .text
  attributes := (s.attributes.flatMap (·.item.simpleNames)).map .text
  names := s.names.items.map .text

end Statement

-- A statement behind another one, kept apart from it by a blank at least.
structure Further where
  gap : Gap
  apart : gap.1 ≠ []
  statement : Statement

def Further.text (f : Further) : Text :=
  f.gap.1 ++ f.statement.text

structure Source where
  front : Gap
  statements : Option (Statement × List Further)
  back : Gap

namespace Source

def written : Option (Statement × List Further) → Text
  | none => []
  | some (first, others) => first.text ++ others.flatMap Further.text

def text (s : Source) : Text :=
  s.front.1 ++ (written s.statements ++ s.back.1)

def list : Option (Statement × List Further) → List Statement
  | none => []
  | some (first, others) => first :: others.map (·.statement)

def records (s : Source) : List Record :=
  (list s.statements).map Statement.record

end Source

end Descent.Example.Declarations
