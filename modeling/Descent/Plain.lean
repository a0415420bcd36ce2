import Descent.Number.Double
import Descent.Text.Quoted

namespace Descent

-- What a caller may hand over where a parser, a literal, a name or a match is expected.
inductive Plain where
  | null
  | bool (b : Bool)
  | int (i : Int)
  | double (d : Number.Double)
  | text (s : String)
  | list (items : List Plain)
  | dict (entries : List (String × Plain))
  | record (name : String) (fields : List (String × Plain))
deriving Repr, Inhabited

namespace Plain

instance : Coe String Plain := ⟨.text⟩

def typeName : Plain → String
  | .null => "NoneType"
  | .bool _ => "bool"
  | .int _ => "int"
  | .double _ => "float"
  | .text _ => "str"
  | .list _ => "list"
  | .dict _ => "dict"
  | .record name _ => name

mutual

-- The value as it is written in a message.
def render : Plain → String
  | .null => "None"
  | .bool true => "True"
  | .bool false => "False"
  | .int i => toString i
  | .double d => d.render
  | .text s => Text.quoted s.toList
  | .list items => "[" ++ ", ".intercalate (renderItems items) ++ "]"
  | .dict entries => "\x7b" ++ ", ".intercalate (renderEntries entries) ++ "\x7d"
  | .record name fields => name ++ "(" ++ ", ".intercalate (renderFields fields) ++ ")"

def renderItems : List Plain → List String
  | [] => []
  | v :: rest => v.render :: renderItems rest

def renderEntries : List (String × Plain) → List String
  | [] => []
  | (key, v) :: rest => (Text.quoted key.toList ++ ": " ++ v.render) :: renderEntries rest

def renderFields : List (String × Plain) → List String
  | [] => []
  | (key, v) :: rest => (key ++ "=" ++ v.render) :: renderFields rest

end

-- A string stands for itself inside a sentence, any other value is written out.
def display : Plain → String
  | .text s => s
  | v => v.render

-- The type of a value that is no text.
def typeIfNoText : Plain → Option String
  | .text _ => none
  | v => some v.typeName

-- Whether the value counts as true. Zeros do not, nor what is empty.
def truthy : Plain → Bool
  | .null => false
  | .bool b => b
  | .int i => i != 0
  | .double d => !d.same (.ofInt 0)
  | .text s => !s.isEmpty
  | .list items => !items.isEmpty
  | .dict entries => !entries.isEmpty
  | .record _ _ => true

-- Truth values count as the numbers zero and one.
def number? : Plain → Option Number.Double
  | .bool b => some (.ofInt (if b then 1 else 0))
  | .int i => some (.ofInt i)
  | .double d => some d
  | _ => none

def isNotANumber : Plain → Bool
  | .double .notANumber => true
  | _ => false

mutual

-- Equality by value: numbers of all kinds are compared as numbers. What is no number is not even
-- equal to itself, except where it is held inside of something else.
def same : Plain → Plain → Bool
  | .null, .null => true
  | .text a, .text b => a == b
  | .list as, .list bs => sameItems as bs
  | .dict as, .dict bs => as.length == bs.length && sameEntries as bs
  | .record n as, .record m bs => n == m && as.length == bs.length && sameEntries as bs
  | a, b => match a.number?, b.number? with
    | some x, some y => x.same y
    | _, _ => false

def sameItems : List Plain → List Plain → Bool
  | [], [] => true
  | a :: as, b :: bs => (a.isNotANumber && b.isNotANumber || same a b) && sameItems as bs
  | _, _ => false

-- The order of the entries does not matter.
def sameEntries : List (String × Plain) → List (String × Plain) → Bool
  | [], _ => true
  | (key, a) :: as, bs => (match bs.find? (·.1 == key) with
    | some (_, b) => a.isNotANumber && b.isNotANumber || same a b
    | none => false) && sameEntries as bs

end

-- The union of two whole numbers taken as sets of bits, a negative one holding all but finitely
-- many.
def bitUnion : Int → Int → Int
  | .ofNat a, .ofNat b => .ofNat (a ||| b)
  | .ofNat a, .negSucc b => .negSucc (b - (a &&& b))
  | .negSucc a, .ofNat b => .negSucc (a - (a &&& b))
  | .negSucc a, .negSucc b => .negSucc (a &&& b)

def whole? : Plain → Option Int
  | .bool b => some (if b then 1 else 0)
  | .int i => some i
  | _ => none

-- What the bar between two values makes of them, where they have a union.
def union? : Plain → Plain → Option Plain
  | .bool a, .bool b => some (.bool (a || b))
  | a, b => match a.whole?, b.whole? with
    | some x, some y => some (.int (bitUnion x y))
    | _, _ => none

end Plain

end Descent
