namespace Descent.Number

-- A finite number is `mantissa * 2 ^ exponent` with an odd mantissa, or zero with both parts zero.
-- Zero has a sign too.
inductive Double where
  | finite (negative : Bool) (mantissa : Nat) (exponent : Int)
  | infinite (negative : Bool)
  | notANumber
deriving Repr, DecidableEq

-- Takes out the factors of two, counting them.
def splitTwos : Nat → Nat → Nat × Nat
  | 0, n => (n, 0)
  | fuel + 1, n =>
      if n % 2 = 0 && n ≠ 0 then
        let (odd, twos) := splitTwos fuel (n / 2)
        (odd, twos + 1)
      else (n, 0)

-- The nearest integer to `num / den`; a tie goes to the even neighbour.
def divNearest (num den : Nat) : Nat :=
  let down := num / den
  let twice := 2 * (num % den)
  if twice < den then down
  else if den < twice then down + 1
  else down + down % 2

-- `num / den * 2 ^ shift` as a quotient.
def scaleTwo (num den : Nat) (shift : Int) : Nat × Nat :=
  if 0 ≤ shift then (num * Nat.pow 2 shift.toNat, den) else (num, den * Nat.pow 2 (-shift).toNat)

def scaleTen (num den : Nat) (shift : Int) : Nat × Nat :=
  if 0 ≤ shift then (num * Nat.pow 10 shift.toNat, den) else (num, den * Nat.pow 10 (-shift).toNat)

namespace Double

def precision : Nat := 53

def minExponent : Int := -1074

-- No finite double reaches this power of two.
def overflowExponent : Int := 1024

def ofParts (negative : Bool) (m : Nat) (e : Int) : Double :=
  let (odd, twos) := splitTwos m.log2 m
  if odd = 0 then .finite negative 0 0 else .finite negative odd (e + twos)

def ofInt (n : Int) : Double := ofParts (n < 0) n.natAbs 0

-- Equality of values: the two zeros are equal, and what is no number equals nothing.
def same : Double → Double → Bool
  | .finite a m e, .finite b n f => m == n && e == f && (a == b || m == 0)
  | .infinite a, .infinite b => a == b
  | _, _ => false

-- The power of two in which the significand of `num / den` is written.
def unitExponent (num den : Nat) : Int :=
  let low : Int := (num.log2 : Int) - den.log2 - precision
  let (a, b) := scaleTwo num den (-low)
  max minExponent (if a / b < Nat.pow 2 precision then low else low + 1)

-- The double nearest to `num / den`, which is not zero.
def ofQuotient (negative : Bool) (num den : Nat) : Double :=
  let unit := unitExponent num den
  let (a, b) := scaleTwo num den (-unit)
  let m := divNearest a b
  if overflowExponent ≤ m.log2 + unit then .infinite negative else ofParts negative m unit

-- The double nearest to `digits * 10 ^ place`. The powers of ten that need no division to be seen
-- out of range are settled first.
def ofDecimal (negative : Bool) (digits : Nat) (place : Int) : Double :=
  if digits = 0 then .finite negative 0 0
  else if overflowExponent ≤ place then .infinite negative
  else if 3 * place + digits.log2 + 1 < 2 * minExponent then .finite negative 0 0
  else
    let (num, den) := scaleTen digits 1 place
    ofQuotient negative num den

-- Whether `num / den` rounds to the double of significand `m` and unit exponent `e`.
def roundsTo (m : Nat) (e : Int) (num den : Nat) : Bool :=
  ofQuotient false num den == ofParts false m e

-- Digits and decimal exponent of the shortest decimal `digits * 10 ^ place` that rounds to `m * 2 ^
-- e`, tried from few digits to many; of two candidates of one length the nearer one.
def shortest (m : Nat) (e : Int) : Nat → Int → Nat × Int
  | 0, place => (m, place)
  | fuel + 1, place =>
      let (num, den) := scaleTwo m 1 e
      let (a, b) := scaleTen num den (-place)
      let near := divNearest a b
      let other := if near * b ≤ a then near + 1 else near - 1
      let reads (n : Nat) : Bool :=
        let (p, q) := scaleTen n 1 place
        n ≠ 0 && roundsTo m e p q
      if reads near then (near, place)
      else if reads other then (other, place)
      else shortest m e fuel (place - 1)

-- Positional from 0.0001 up to sixteen digits before the point, with a point in every case; beyond
-- that one digit before the point and an exponent of at least two digits.
def layout (digits : Nat) (place : Int) : String :=
  let ds := (toString digits).toList.reverse.dropWhile (· = '0') |>.reverse
  let stripped := (toString digits).length - ds.length
  let point : Int := ds.length + (place + stripped)
  if -4 < point ∧ point ≤ 16 then
    if point ≤ 0 then "0." ++ String.ofList (List.replicate (-point).toNat '0' ++ ds)
    else
      let n := point.toNat
      if ds.length ≤ n then String.ofList (ds ++ List.replicate (n - ds.length) '0') ++ ".0"
      else String.ofList (ds.take n) ++ "." ++ String.ofList (ds.drop n)
  else
    let exp := point - 1
    let size := toString exp.natAbs
    let head := match ds with
      | [d] => String.ofList [d]
      | d :: more => String.ofList (d :: '.' :: more)
      | [] => "0"
    head ++ "e" ++ (if exp < 0 then "-" else "+") ++ (if size.length < 2 then "0" ++ size else size)

-- The search for digits starts on a decimal grid no finer than the number itself.
def renderFinite (m : Nat) (e : Int) : String :=
  if m = 0 then "0.0"
  else
    let (num, den) := scaleTwo m 1 e
    let start : Int :=
      (toString (num / den)).length - (if num < den then (toString (den / num)).length else 0)
    let (digits, place) := shortest m e 20 start
    layout digits place

def render : Double → String
  | .finite negative m e => (if negative then "-" else "") ++ renderFinite m e
  | .infinite negative => if negative then "-inf" else "inf"
  | .notANumber => "nan"

end Double

end Descent.Number
