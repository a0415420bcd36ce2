import Descent.Plain

namespace Descent

-- What a parser reports of the text it took. Callers may smuggle in values that are no matches;
-- those are kept apart as foreign nodes.
inductive Match where
  | empty
  | leaf (text : Text)
  | labeled (name : String) (value : Match)
  | seq (items : List Match)
  | foreign (value : Plain)
deriving Repr, Inhabited

namespace Match

def isLeaf : Match → Bool
  | .leaf _ => true
  | _ => false

def isLabeled : Match → Bool
  | .labeled _ _ => true
  | _ => false

def isSeq : Match → Bool
  | .seq _ => true
  | _ => false

-- The kind of node, by the word used for it in messages.
def typeName : Match → String
  | .empty => "NoneType"
  | .leaf _ => "Leaf"
  | .labeled _ _ => "Labeled"
  | .seq _ => "Sequence"
  | .foreign v => v.typeName

mutual

def render : Match → String
  | .empty => "None"
  | .leaf t => "Leaf(text=" ++ Text.quoted t ++ ")"
  | .labeled name v => "Labeled(name=" ++ Text.quoted name.toList ++ ", value=" ++ v.render ++ ")"
  | .seq items => "Sequence(items=" ++ tuple (renderItems items) ++ ")"
  | .foreign v => v.render

def renderItems : List Match → List String
  | [] => []
  | m :: rest => m.render :: renderItems rest

-- A single item is followed by a comma.
def tuple : List String → String
  | [one] => "(" ++ one ++ ",)"
  | items => "(" ++ ", ".intercalate items ++ ")"

end

def isNotANumber : Match → Bool
  | .foreign v => v.isNotANumber
  | _ => false

mutual

-- Equality by value. A foreign node that is no number is equal to itself only where it is held.
def same : Match → Match → Bool
  | .empty, .empty => true
  | .leaf a, .leaf b => a == b
  | .labeled n v, .labeled m w =>
      n == m && (v.isNotANumber && w.isNotANumber || same v w)
  | .seq as, .seq bs => sameItems as bs
  | .foreign v, .foreign w => v.same w
  | _, _ => false

def sameItems : List Match → List Match → Bool
  | [], [] => true
  | a :: as, b :: bs => (a.isNotANumber && b.isNotANumber || same a b) && sameItems as bs
  | _, _ => false

end

-- Equality inside of something else.
def sameHeld (a b : Match) : Bool :=
  a.isNotANumber && b.isNotANumber || a.same b

mutual

-- How many nodes stand in a match.
def size : Match → Nat
  | .labeled _ v => v.size + 1
  | .seq items => sizeItems items + 1
  | _ => 1

def sizeItems : List Match → Nat
  | [] => 0
  | m :: rest => m.size + sizeItems rest

end

theorem sizeItems_append (as bs : List Match) :
    sizeItems (as ++ bs) = sizeItems as + sizeItems bs := by
  induction as with
  | nil => simp [sizeItems]
  | cons a as ih => simp [sizeItems, ih, Nat.add_assoc]

-- Takes the nodes waiting on a stack one by one, the top one first; children go on top in their
-- order.
def unload : List Match → List Text
  | [] => []
  | .leaf t :: stack => t :: unload stack
  | .labeled _ v :: stack => unload (v :: stack)
  | .seq items :: stack => unload (items ++ stack)
  | .empty :: stack => unload stack
  | .foreign _ :: stack => unload stack
termination_by stack => sizeItems stack
decreasing_by
  all_goals
    simp only [sizeItems, size, sizeItems_append]
    omega

-- The matched texts in input order; labels, empty matches and foreign nodes add nothing.
def leaves (m : Match) : List Text :=
  unload [m]

end Match

end Descent
