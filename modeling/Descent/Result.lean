import Descent.Fault
import Descent.Match

namespace Descent

-- A parser that keeps the rules fails with the text it was given and an empty match.
inductive Result where
  | ok (rest : Text) (value : Match)
  | failed (rest : Text) (value : Match)
deriving Repr, Inhabited

namespace Result

-- The failure of a parser that keeps the rules.
def fail (t : Text) : Result :=
  .failed t .empty

def succeeded : Result → Bool
  | .ok _ _ => true
  | .failed _ _ => false

def rest : Result → Text
  | .ok rest _ => rest
  | .failed rest _ => rest

def value : Result → Match
  | .ok _ value => value
  | .failed _ value => value

-- Equality of two results, which hold their matches.
def same : Result → Result → Bool
  | .ok rest v, .ok other w => rest == other && v.sameHeld w
  | .failed rest v, .failed other w => rest == other && v.sameHeld w
  | _, _ => false

def render (r : Result) : String :=
  "ParseResult(success=" ++ (if r.succeeded then "True" else "False") ++
    ", remaining=" ++ Text.quoted r.rest ++ ", match=" ++ r.value.render ++ ")"

end Result

-- How the matches of a sequence become one.
inductive Reducer where
  | all
  | nth (index : Nat)
  | custom (f : List Match → Except Fault Match)

namespace Reducer

def apply : Reducer → List Match → Except Fault Match
  | .all, ms => .ok (.seq ms)
  | .nth i, ms => match ms[i]? with
    | some m => .ok m
    | none => .error .noSuchItem
  | .custom f, ms => f ms

theorem mem_of_nth {i : Nat} {ms : List Match} {m : Match} (h : (nth i).apply ms = .ok m) :
    m ∈ ms := by
  unfold apply at h
  cases hitem : ms[i]? with
  | none => simp [hitem] at h
  | some n =>
      simp only [hitem, Except.ok.injEq] at h
      exact h ▸ List.mem_of_getElem? hitem

-- A negative index counts from the end.
def item? (ms : List Match) (index : Int) : Option Match :=
  if 0 ≤ index then ms[index.toNat]?
  else if -index ≤ ms.length then ms[ms.length - (-index).toNat]?
  else none

-- An index is a signed word.
def indexBound : Int := 0x8000000000000000

def index (n : Int) : Reducer :=
  .custom fun ms =>
    if n < -indexBound ∨ indexBound ≤ n then .error .indexTooLarge
    else match item? ms n with
      | some m => .ok m
      | none => .error .noSuchItem

def backwards : Reducer :=
  .custom fun ms => .ok (.seq ms.reverse)

def joined (glue : Text) : Reducer :=
  .custom fun ms => .ok (.leaf (List.intercalate glue (ms.flatMap Match.leaves)))

def counted : Reducer :=
  .custom fun ms => .ok (.leaf (Nat.toDigits 10 ms.length))

def nothing : Reducer :=
  .custom fun _ => .ok .empty

end Reducer

-- A parser written by hand. Nothing binds it to the rules that the combinators keep.
structure Custom where
  apply : Text → Except Fault Result
  functionName : Option String

namespace Custom

-- Fails behind the first character.
def sloppy : Custom where
  apply t := .ok (.fail (t.drop 1))
  functionName := some "sloppy"

-- Succeeds and lengthens the text.
def grow : Custom where
  apply t := .ok (.ok (t ++ ['!']) .empty)
  functionName := some "grow"

-- One character that has a digit value.
def digit : Custom where
  apply
    | c :: rest => .ok (if Text.isDigit c then .ok rest (.leaf [c]) else .fail (c :: rest))
    | [] => .ok (.fail [])
  functionName := some "digit"

def nameless (c : Custom) : Custom :=
  { c with functionName := none }

end Custom

end Descent
