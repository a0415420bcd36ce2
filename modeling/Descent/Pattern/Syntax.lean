import Descent.Text.Blank
import Descent.Text.Digit
import Descent.Text.LowerCase
import Descent.Text.WordChar

namespace Descent.Pattern

-- How far letters that differ in case only are taken for the same.
inductive Folding where
  | exact
  | ascii
  | full
deriving Repr, DecidableEq, Inhabited

inductive ClassName where
  | decimal
  | blank
  | word
deriving Repr, DecidableEq, Inhabited

def ClassName.holds : ClassName → Bool → Char → Bool
  | .decimal, false => Text.isDecimalDigit
  | .decimal, true => Text.isAsciiDigit
  | .blank, false => Text.isBlank
  | .blank, true => Text.isAsciiBlank
  | .word, false => Text.isWordChar
  | .word, true => Text.isAsciiWordChar

inductive CharItem where
  | range (lo hi : Nat)
  | named (cls : ClassName) (negated ascii : Bool)
deriving Repr, DecidableEq, Inhabited

-- The code points for which `c` may stand.
def Folding.variants : Folding → Char → List Nat
  | .exact, c => [c.toNat]
  | .ascii, c => Text.asciiCaseVariants c.toNat
  | .full, c => Text.caseVariants c.toNat

def Folding.key : Folding → Char → Char
  | .exact, c => c
  | .ascii, c => Text.asciiLower c
  | .full, c => Text.lower c

def CharItem.holds (folding : Folding) (c : Char) : CharItem → Bool
  | .range lo hi => (folding.variants c).any fun n => lo ≤ n && n ≤ hi
  | .named cls negated ascii => cls.holds ascii c != negated

-- A test of one character.
structure CharTest where
  negated : Bool
  items : List CharItem
  folding : Folding
deriving Repr, DecidableEq, Inhabited

namespace CharTest

def accepts (t : CharTest) (c : Char) : Bool :=
  t.items.any (·.holds t.folding c) != t.negated

def literal (folding : Folding) (n : Nat) : CharTest :=
  ⟨false, [.range n n], folding⟩

def named (cls : ClassName) (negated ascii : Bool) : CharTest :=
  ⟨false, [.named cls negated ascii], .exact⟩

def notNewline : CharTest :=
  ⟨true, [.range 0x0A 0x0A], .exact⟩

def anything : CharTest :=
  ⟨true, [], .exact⟩

end CharTest

-- Conditions on a place between two characters. The last line ends before a line feed that ends the
-- text, and at the end of the text.
inductive Anchor where
  | textStart
  | lineStart
  | textEnd
  | lineEnd
  | lastLineEnd
  | wordEdge (ascii : Bool)
  | noWordEdge (ascii : Bool)
deriving Repr, DecidableEq, Inhabited

-- In which order the numbers of rounds are tried, and whether more than the first is.
inductive Style where
  | greedy
  | reluctant
  | possessive
deriving Repr, DecidableEq, Inhabited

-- Switches are resolved while a pattern is read: a node holds all that its meaning depends on.
inductive Node where
  | empty
  | one (test : CharTest)
  | anchor (a : Anchor)
  | seq (first second : Node)
  | alt (first second : Node)
  | group (index : Nat) (body : Node)
  | sameAs (index : Nat) (folding : Folding)
  | times (min : Nat) (max : Option Nat) (style : Style) (body : Node)
  | ahead (positive : Bool) (body : Node)
  | behind (positive : Bool) (width : Nat) (body : Node)
  | atomic (body : Node)
  | ifGroup (index : Nat) (yes no : Node)
deriving Repr, DecidableEq, Inhabited

-- The least and the greatest number of characters that something can match; without the greatest
-- there is no bound.
structure Width where
  least : Nat
  most : Option Nat
deriving Repr, DecidableEq, Inhabited

namespace Width

def zero : Width := ⟨0, some 0⟩

def append (v w : Width) : Width :=
  ⟨v.least + w.least, match v.most, w.most with
    | some a, some b => some (a + b)
    | _, _ => none⟩

def either (v w : Width) : Width :=
  ⟨min v.least w.least, match v.most, w.most with
    | some a, some b => some (max a b)
    | _, _ => none⟩

def times (lo : Nat) (hi : Option Nat) (w : Width) : Width :=
  ⟨w.least * lo, match hi, w.most with
    | some 0, _ => some 0
    | _, some 0 => some 0
    | some n, some b => some (b * n)
    | _, _ => none⟩

def exactly? (w : Width) : Option Nat :=
  if w.most = some w.least then some w.least else none

end Width

-- The width of a node, given those of the groups it refers to.
def Node.width (groups : List (Nat × Width)) : Node → Width
  | .one _ => ⟨1, some 1⟩
  | .seq a b => (a.width groups).append (b.width groups)
  | .alt a b => (a.width groups).either (b.width groups)
  | .group _ body => body.width groups
  | .sameAs i _ => ((groups.find? (·.1 == i)).map (·.2)).getD .zero
  | .times lo hi _ body => (body.width groups).times lo hi
  | .atomic body => body.width groups
  | .ifGroup _ yes no => (yes.width groups).either (no.width groups)
  | .empty | .anchor _ | .ahead _ _ | .behind _ _ _ => .zero

end Descent.Pattern

namespace Descent

-- A pattern that was read, with the text it was read from.
structure Pattern where
  source : Text
  node : Pattern.Node
deriving Repr, DecidableEq, Inhabited

end Descent
