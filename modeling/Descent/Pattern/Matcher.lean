import Descent.Pattern.Syntax

namespace Descent.Pattern

-- A place in a text: the characters before it, the nearest first, those after it, how far it lies
-- from the place where the match began, and the texts of the groups matched so far.
structure Cursor where
  before : Text
  after : Text
  passed : Nat
  groups : List (Nat × Text)
deriving Repr, DecidableEq

abbrev Goal := Cursor → Option Cursor

abbrev Step := Cursor → Goal → Option Cursor

namespace Cursor

-- Moves over the next `n` characters, if there are so many.
def forward? : Nat → Cursor → Option Cursor
  | 0, s => some s
  | n + 1, s => match s.after with
    | [] => none
    | c :: rest =>
        forward? n { s with before := c :: s.before, after := rest, passed := s.passed + 1 }

def back? : Nat → Cursor → Option Cursor
  | 0, s => some s
  | n + 1, s => match s.before with
    | [] => none
    | c :: rest => back? n { s with before := rest, after := c :: s.after, passed := s.passed - 1 }

def group? (s : Cursor) (index : Nat) : Option Text :=
  (s.groups.find? (·.1 == index)).map (·.2)

def setGroup (s : Cursor) (index : Nat) (t : Text) : Cursor :=
  { s with groups := (index, t) :: s.groups.filter (·.1 != index) }

end Cursor

-- Word edges are never found, nor missed, in an empty text.
def Anchor.holds (s : Cursor) : Anchor → Bool
  | .textStart => s.before.isEmpty
  | .lineStart => match s.before with
    | [] => true
    | c :: _ => c == '\n'
  | .textEnd => s.after.isEmpty
  | .lineEnd => match s.after with
    | [] => true
    | c :: _ => c == '\n'
  | .lastLineEnd => s.after == [] || s.after == ['\n']
  | .wordEdge ascii =>
      !(s.before.isEmpty && s.after.isEmpty) && isWord ascii s.before != isWord ascii s.after
  | .noWordEdge ascii =>
      !(s.before.isEmpty && s.after.isEmpty) && isWord ascii s.before == isWord ascii s.after
where
  isWord (ascii : Bool) : Text → Bool
    | [] => false
    | c :: _ => ClassName.word.holds ascii c

-- The rounds that have to be there.
def required (body : Step) (k : Goal) : Nat → Goal
  | 0, s => k s
  | n + 1, s => body s (required body k n)

-- Further rounds while there is room for them, then the goal. No round starts where the one before
-- it started, so there are no more of them than characters left, and one.
def greedy (body : Step) (k : Goal) : Nat → Option Nat → Option Nat → Goal
  | 0, _, _, s => k s
  | fuel + 1, room, last, s =>
      if room = some 0 ∨ last = some s.passed then k s
      else match body s (greedy body k fuel (room.map (· - 1)) (some s.passed)) with
        | some r => some r
        | none => k s

def reluctant (body : Step) (k : Goal) : Nat → Option Nat → Option Nat → Goal
  | 0, _, _, s => k s
  | fuel + 1, room, last, s =>
      match k s with
      | some r => some r
      | none =>
          if room = some 0 ∨ last = some s.passed then none
          else body s (reluctant body k fuel (room.map (· - 1)) (some s.passed))

-- Commits to the first way through the step.
def committed (body : Step) : Step := fun s k =>
  match body s some with
  | some r => k r
  | none => none

def rounds (min : Nat) (max : Option Nat) : Style → Step → Step
  | .greedy, body => fun s k =>
      required body (fun r => greedy body k (r.after.length + 2) (max.map (· - min)) none r) min s
  | .reluctant, body => fun s k =>
      required body
        (fun r => reluctant body k (r.after.length + 2) (max.map (· - min)) none r) min s
  | .possessive, body =>
      let firm := committed body
      committed fun s k =>
        required firm (fun r => greedy firm k (r.after.length + 2) (max.map (· - min)) none r) min s

-- The text of an earlier group, once more.
def repeated (folding : Folding) : Text → Cursor → Option Cursor
  | [], s => some s
  | c :: rest, s => match s.after with
    | [] => none
    | d :: _ =>
        if folding.key c = folding.key d then (s.forward? 1).bind (repeated folding rest) else none

def Node.run : Node → Step
  | .empty, s, k => k s
  | .one test, s, k => match s.after with
    | [] => none
    | c :: rest =>
        if test.accepts c then
          k { s with before := c :: s.before, after := rest, passed := s.passed + 1 }
        else none
  | .anchor a, s, k => if a.holds s then k s else none
  | .seq a b, s, k => a.run s (fun r => b.run r k)
  | .alt a b, s, k => match a.run s k with
    | some r => some r
    | none => b.run s k
  | .group i body, s, k =>
      body.run s fun r => k (r.setGroup i (s.after.take (r.passed - s.passed)))
  | .sameAs i folding, s, k => match s.group? i with
    | some t => (repeated folding t s).bind k
    | none => none
  | .times min max style body, s, k => rounds min max style body.run s k
  | .ahead positive body, s, k => match body.run s some with
    | some r => if positive then k { s with groups := r.groups } else none
    | none => if positive then none else k s
  | .behind positive width body, s, k => match (s.back? width).bind (fun r => body.run r some) with
    | some r => if positive then k { s with groups := r.groups } else none
    | none => if positive then none else k s
  | .atomic body, s, k => committed body.run s k
  | .ifGroup i yes no, s, k => match s.group? i with
    | some _ => yes.run s k
    | none => no.run s k

-- How many characters of `after` the pattern takes at the place behind `before`, which is read from
-- there backwards.
def length? (p : Pattern) (before after : Text) : Option Nat :=
  (p.node.run ⟨before, after, 0, []⟩ some).map (·.passed)

def matchesAt (p : Pattern) (before after : Text) : Bool :=
  (p.length? before after).isSome

-- The text that the pattern takes at the very front, and the rest.
def front? (p : Pattern) (t : Text) : Option (Text × Text) :=
  (p.length? [] t).map fun n => (t.take n, t.drop n)

-- How many characters stand before the first, or the last, place where the pattern matches; the end
-- of the text is such a place too.
def firstPlace? (p : Pattern) : Text → Text → Option Nat
  | before, [] => if p.matchesAt before [] then some 0 else none
  | before, c :: rest =>
      if p.matchesAt before (c :: rest) then some 0
      else (firstPlace? p (c :: before) rest).map (· + 1)

def lastPlace? (p : Pattern) : Text → Text → Option Nat
  | before, [] => if p.matchesAt before [] then some 0 else none
  | before, c :: rest => match lastPlace? p (c :: before) rest with
    | some n => some (n + 1)
    | none => if p.matchesAt before (c :: rest) then some 0 else none

def splitAt? (place : Option Nat) (t : Text) : Option (Text × Text) :=
  place.map fun n => (t.take n, t.drop n)

-- The text before the first match, and the rest.
def upto? (p : Pattern) (t : Text) : Option (Text × Text) :=
  splitAt? (p.firstPlace? [] t) t

-- The text before the last match, and the rest.
def greedyUpto? (p : Pattern) (t : Text) : Option (Text × Text) :=
  splitAt? (p.lastPlace? [] t) t

end Descent.Pattern
