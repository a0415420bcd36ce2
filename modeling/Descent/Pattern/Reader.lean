import Descent.Pattern.Syntax
import Descent.Text.Identifier

namespace Descent

-- The characters that can be called by a name. The names come from a database of characters, which
-- is given from outside.
class CharNames where
  named? : Text → Option Char

-- The database for patterns that call no character by its name.
@[reducible]
def CharNames.nameless : CharNames where
  named? _ := none

namespace Pattern

-- Why a text is refused as a pattern.
inductive ReadError where
  | malformed
  | tooManyRounds
  | clashingAlphabets
deriving Repr, DecidableEq

-- The switches in force at some place of a pattern.
structure Flags where
  ignoreCase : Bool := false
  multiline : Bool := false
  dotAll : Bool := false
  verbose : Bool := false
  ascii : Bool := false
deriving Repr, DecidableEq, Inhabited

namespace Flags

def folding (f : Flags) : Folding :=
  if !f.ignoreCase then .exact else if f.ascii then .ascii else .full

end Flags

-- What has been learnt so far: the unread text, the switches of the whole pattern, how many groups
-- were opened, their names, the widths of the closed ones, the first group of the outermost
-- lookbehind, the groups that conditions asked for, and whether a lookbehind has no width that it
-- could go back by.
structure Reading where
  rest : Text
  flags : Flags
  unicode : Bool := false
  opened : Nat := 0
  names : List (Text × Nat) := []
  closed : List (Nat × Width) := []
  lookingBehind : Option Nat := none
  asked : List Nat := []
  unevenBehind : Bool := false

-- Reading goes by tokens: a character, or an escape sign with the character that it escapes.
inductive Token where
  | plain (c : Char)
  | escaped (c : Char)
deriving DecidableEq

abbrev Reader := StateT Reading (Except ReadError)

namespace Reader

def refuse {α : Type} : Reader α := throw .malformed

def peek? : Reader (Option Char) := do
  return (← get).rest.head?

-- An escape sign at the very end escapes nothing; it is refused as soon as reading comes up to it.
def moveTo (rest : Text) : Reader Unit := do
  if rest = ['\\'] then refuse
  modify fun s => { s with rest }

def next : Reader Token := do
  match (← get).rest with
  | '\\' :: c :: rest =>
      moveTo rest
      return .escaped c
  | c :: rest =>
      moveTo rest
      return .plain c
  | [] => refuse

def nextPlain : Reader Char := do
  match ← next with
  | .plain c => return c
  | .escaped _ => refuse

-- Reads the character if it comes next.
def eat (c : Char) : Reader Bool := do
  match (← get).rest with
  | d :: rest =>
      if c = d then
        moveTo rest
        return true
      else return false
  | [] => return false

-- At most `most` characters of a class.
def span (most : Nat) (test : Char → Bool) : Reader Text := do
  let s ← get
  let taken := (s.rest.take most).takeWhile test
  moveTo (s.rest.drop taken.length)
  return taken

def spanAll (test : Char → Bool) : Reader Text := do
  span (← get).rest.length test

end Reader

open Reader

-- What stands in front of a closing sign, and what behind it. An escaped sign closes nothing.
def upTo? (last : Char) : Text → Option (Text × Text)
  | [] => none
  | '\\' :: c :: rest => (upTo? last rest).map fun (inside, behind) => ('\\' :: c :: inside, behind)
  | c :: rest =>
      if c = last then some ([], rest)
      else (upTo? last rest).map fun (inside, behind) => (c :: inside, behind)

-- A name is never empty.
def readName (last : Char) : Reader Text := do
  match upTo? last (← get).rest with
  | some (name, rest) =>
      if name.isEmpty then refuse
      moveTo rest
      return name
  | none => refuse

def isOctal (c : Char) : Bool := '0' ≤ c && c ≤ '7'

def isHex (c : Char) : Bool :=
  Text.isAsciiDigit c || ('a' ≤ c && c ≤ 'f') || ('A' ≤ c && c ≤ 'F')

def digitValue (c : Char) : Nat :=
  if Text.isAsciiDigit c then c.toNat - '0'.toNat
  else if 'a' ≤ c then c.toNat - 'a'.toNat + 10
  else c.toNat - 'A'.toNat + 10

def numeral (base : Nat) (ds : Text) : Nat :=
  ds.foldl (fun n d => n * base + digitValue d) 0

-- A hexadecimal escape has exactly so many digits.
def readHex (digits : Nat) : Reader Nat := do
  let ds ← span digits isHex
  if ds.length = digits then return numeral 16 ds else refuse

inductive Escape where
  | char (n : Nat)
  | named (cls : ClassName) (negated : Bool)
  | anchor (a : Anchor)
  | group (index : Nat)

-- Escapes that mean the same inside and outside of a class.
def commonEscape? (c : Char) : Option Escape :=
  match c with
  | 'd' => some (.named .decimal false)
  | 'D' => some (.named .decimal true)
  | 's' => some (.named .blank false)
  | 'S' => some (.named .blank true)
  | 'w' => some (.named .word false)
  | 'W' => some (.named .word true)
  | 'a' => some (.char 0x07)
  | 'f' => some (.char 0x0C)
  | 'n' => some (.char 0x0A)
  | 'r' => some (.char 0x0D)
  | 't' => some (.char 0x09)
  | 'v' => some (.char 0x0B)
  | _ => none

def lastCodePoint : Nat := 0x10FFFF

-- The character whose name stands in braces.
def readNamed [CharNames] : Reader Nat := do
  if !(← eat '\x7b') then refuse
  match CharNames.named? (← readName '\x7d') with
  | some c => return c.toNat
  | none => refuse

-- A letter that is no escape is refused, any other character stands for itself.
def readPlainEscape [CharNames] (c : Char) : Reader Escape := do
  if c = 'x' then return .char (← readHex 2)
  else if c = 'u' then return .char (← readHex 4)
  else if c = 'U' then
    let n ← readHex 8
    if n ≤ lastCodePoint then return .char n else refuse
  else if c = 'N' then return .char (← readNamed)
  else if c.isAlpha then refuse
  else return .char c.toNat

def readClassEscape [CharNames] (c : Char) : Reader Escape := do
  match commonEscape? c with
  | some e => return e
  | none =>
      if c = 'b' then return .char 0x08
      else if isOctal c then
        let n := numeral 8 (c :: (← span 2 isOctal))
        if n ≤ 0xFF then return .char n else refuse
      else if Text.isAsciiDigit c then refuse
      else readPlainEscape c

-- Only a group that was closed can be referred to, inside a lookbehind only one from before it.
def checkGroup (index : Nat) : Reader Unit := do
  let s ← get
  if !s.closed.any (·.1 == index) then refuse
  match s.lookingBehind with
  | some first => if first ≤ index then refuse
  | none => return ()

-- Two digits name a group, three octal ones a character.
def readNumberEscape (c : Char) : Reader Escape := do
  let second ← span 1 Text.isAsciiDigit
  let third ←
    if isOctal c && !second.isEmpty && second.all isOctal then span 1 isOctal else pure []
  if third.isEmpty then
    let index := numeral 10 (c :: second)
    checkGroup index
    return .group index
  else
    let n := numeral 8 (c :: second ++ third)
    if n ≤ 0xFF then return .char n else refuse

def readEscape [CharNames] (flags : Flags) (c : Char) : Reader Escape := do
  match commonEscape? c with
  | some e => return e
  | none =>
      match c with
      | 'A' => return .anchor .textStart
      | 'Z' => return .anchor .textEnd
      | 'b' => return .anchor (.wordEdge flags.ascii)
      | 'B' => return .anchor (.noWordEdge flags.ascii)
      | '0' => return .char (numeral 8 (← span 2 isOctal))
      | _ => if Text.isAsciiDigit c then readNumberEscape c else readPlainEscape c

def classItem (flags : Flags) : Escape → Reader CharItem
  | .char n => return .range n n
  | .named cls negated => return .named cls negated flags.ascii
  | _ => refuse

def readClassAtom [CharNames] : Token → Reader Escape
  | .plain c => return .char c.toNat
  | .escaped c => readClassEscape c

-- The items of a class. A bracket that comes first is an item, and so is a hyphen that comes last.
def readClassItems [CharNames] (flags : Flags) : Nat → List CharItem → Reader (List CharItem)
  | 0, _ => refuse
  | fuel + 1, items => do
      let first ← next
      if first = .plain ']' && !items.isEmpty then return items.reverse
      let low ← readClassAtom first
      if ← eat '-' then
        let second ← next
        if second = .plain ']' then
          return (CharItem.range '-'.toNat '-'.toNat :: (← classItem flags low) :: items).reverse
        match low, ← readClassAtom second with
        | .char lo, .char hi =>
            if hi < lo then refuse else readClassItems flags fuel (.range lo hi :: items)
        | _, _ => refuse
      else readClassItems flags fuel ((← classItem flags low) :: items)

def readClass [CharNames] (flags : Flags) : Reader CharTest := do
  let negated ← eat '^'
  let items ← readClassItems flags ((← get).rest.length + 1) []
  return ⟨negated, items, flags.folding⟩

-- A part of a sequence, and whether it can be repeated.
inductive Part where
  | plain (n : Node)
  | place (n : Node)
  | repeated (n : Node)

def Part.node : Part → Node
  | .plain n => n
  | .place n => n
  | .repeated n => n

def escapedPart (flags : Flags) : Escape → Part
  | .char n => .plain (.one (.literal flags.folding n))
  | .named cls negated => .plain (.one (.named cls negated flags.ascii))
  | .anchor a => .place (.anchor a)
  | .group i => .plain (.sameAs i flags.folding)

def roundLimit : Nat := 4294967295

-- The bounds between braces, or nothing if what follows the brace is no bound, in which case the
-- brace stands for itself.
def readBounds : Reader (Option (Nat × Option Nat)) := do
  let start ← get
  if start.rest.head? = some '\x7d' then return none
  let low ← spanAll Text.isAsciiDigit
  let comma ← eat ','
  let high ← if comma then spanAll Text.isAsciiDigit else pure low
  if !(← eat '\x7d') then
    set start
    return none
  let lo := numeral 10 low
  if roundLimit ≤ lo then throw .tooManyRounds
  if high.isEmpty then return some (lo, none)
  let hi := numeral 10 high
  if roundLimit ≤ hi then throw .tooManyRounds
  if hi < lo then refuse
  return some (lo, some hi)

-- A sign behind the bounds makes them reluctant or possessive.
def readStyle : Reader Style := do
  if ← eat '?' then return .reluctant
  if ← eat '+' then return .possessive
  return .greedy

-- Repeats the part read last. A place cannot be repeated, nor a repetition once more.
def repeatLast (lo : Nat) (hi : Option Nat) : List Part → Reader (List Part)
  | .plain n :: parts => do
      let style ← readStyle
      return .repeated (.times lo hi style n) :: parts
  | _ => refuse

-- Whether the last of the tokens is an escape sign alone.
def endsInEscape : Text → Bool
  | [] => false
  | ['\\'] => true
  | '\\' :: _ :: rest => endsInEscape rest
  | _ :: rest => endsInEscape rest

-- A comment goes on to the end of its line, or of the text.
def skipLine : Reader Unit := do
  let s ← get
  match upTo? '\n' s.rest with
  | some (_, rest) => moveTo rest
  | none => if endsInEscape s.rest then refuse else moveTo []

def namedGroup (name : Text) : Reader Nat := do
  match (← get).names.find? (·.1 == name) with
  | some (_, i) => return i
  | none => refuse

def openGroup (name : Option Text) : Reader Nat := do
  let s ← get
  let index := s.opened + 1
  match name with
  | some n =>
      if s.names.any (·.1 == n) then refuse
      set { s with opened := index, names := (n, index) :: s.names }
  | none => set { s with opened := index }
  return index

def closeGroup (index : Nat) (body : Node) : Reader Unit :=
  modify fun s => { s with closed := (index, body.width s.closed) :: s.closed }

-- Switches that are turned on and off, and the alphabets that are asked for.
structure Switches where
  on : List Char := []
  off : List Char := []

def Flags.turn (value : Bool) (f : Flags) : Char → Flags
  | 'i' => { f with ignoreCase := value }
  | 'm' => { f with multiline := value }
  | 's' => { f with dotAll := value }
  | 'x' => { f with verbose := value }
  | 'a' => { f with ascii := value }
  | 'u' => { f with ascii := !value }
  | _ => f

def Flags.apply (f : Flags) (s : Switches) : Flags :=
  s.off.foldl (·.turn false) (s.on.foldl (·.turn true) f)

def isSwitch (c : Char) : Bool := "imsxau".toList.contains c

def isAlphabet (c : Char) : Bool := c = 'a' || c = 'u'

-- Letters up to the given ends; at least one letter.
def readSwitches (ends : List Char) : Nat → List Char → Reader (List Char × Char)
  | 0, _ => refuse
  | fuel + 1, seen => do
      let c ← nextPlain
      if ends.contains c && !seen.isEmpty then return (seen.reverse, c)
      if isSwitch c then readSwitches ends fuel (c :: seen) else refuse

-- The switches in front of a group, or of the whole pattern if a parenthesis ends them.
def readGroupSwitches : Reader (Switches × Bool) := do
  let fuel := (← get).rest.length + 1
  let (on, stop) ←
    if ← eat '-' then pure ([], '-') else readSwitches [')', '-', ':'] fuel []
  if on.contains 'a' && on.contains 'u' then refuse
  if stop = ')' then return (⟨on, []⟩, true)
  if stop = ':' then return (⟨on, []⟩, false)
  let (off, _) ← readSwitches [':'] fuel []
  if off.any isAlphabet || off.any on.contains then refuse
  return (⟨on, off⟩, false)

def close : Reader Unit := do
  if !(← eat ')') then refuse

-- A name or a number asks for a group that may be opened later.
def readCondition : Reader Nat := do
  let name ← readName ')'
  let index ←
    if Text.isIdentifier name then namedGroup name
    else if name.all Text.isAsciiDigit && numeral 10 name ≠ 0 then
      let index := numeral 10 name
      modify fun s => { s with asked := index :: s.asked }
      pure index
    else refuse
  if (← get).lookingBehind.isSome then checkGroup index
  return index

def sequenceOf (parts : List Part) : Node :=
  match parts with
  | [] => .empty
  | [p] => p.node
  | p :: rest => rest.foldl (fun n q => .seq q.node n) p.node

-- How far a lookbehind can go back.
def widthLimit : Nat := 4294967295

variable [CharNames]

mutual

-- Alternatives up to a parenthesis or the end. On the outermost level the first of them may turn on
-- switches for the whole pattern.
def readAlternatives : Nat → Flags → Bool → Bool → Reader Node
  | 0, _, _, _ => refuse
  | fuel + 1, flags, outermost, first => do
      let branch ← readParts fuel flags (outermost && first) []
      if ← eat '|' then
        let whole := (← get).flags
        let flags := if outermost then whole else flags
        return .alt branch (← readAlternatives fuel flags outermost false)
      else return branch

-- The parts of one alternative, collected from the last to the first.
def readParts : Nat → Flags → Bool → List Part → Reader Node
  | 0, _, _, _ => refuse
  | fuel + 1, flags, leading, parts => do
      match ← peek? with
      | none => return sequenceOf parts
      | some '|' => return sequenceOf parts
      | some ')' => return sequenceOf parts
      | some _ =>
          let more (p : Part) : Reader Node := readParts fuel flags leading (p :: parts)
          let again (lo : Nat) (hi : Option Nat) : Reader Node := do
            readParts fuel flags leading (← repeatLast lo hi parts)
          match ← next with
          | .escaped c => more (escapedPart flags (← readEscape flags c))
          | .plain c =>
          if flags.verbose && (" \t\n\r\x0b\x0c".toList.contains c) then
            readParts fuel flags leading parts
          else if flags.verbose && c = '#' then
            skipLine
            readParts fuel flags leading parts
          else match c with
          | '[' => more (.plain (.one (← readClass flags)))
          | '.' => more (.plain (.one (if flags.dotAll then .anything else .notNewline)))
          | '^' => more (.place (.anchor (if flags.multiline then .lineStart else .textStart)))
          | '$' => more (.place (.anchor (if flags.multiline then .lineEnd else .lastLineEnd)))
          | '?' => again 0 (some 1)
          | '*' => again 0 none
          | '+' => again 1 none
          | '\x7b' =>
              match ← readBounds with
              | some (lo, hi) => again lo hi
              | none => more (.plain (.one (.literal flags.folding '\x7b'.toNat)))
          | '(' => readParenthesis fuel flags leading parts
          | _ => more (.plain (.one (.literal flags.folding c.toNat)))

-- What an opening parenthesis begins, and the parts behind it.
def readParenthesis : Nat → Flags → Bool → List Part → Reader Node
  | 0, _, _, _ => refuse
  | fuel + 1, flags, leading, parts => do
      let more (n : Node) : Reader Node := readParts fuel flags leading (.plain n :: parts)
      let body (inner : Flags) : Reader Node := do
        let n ← readAlternatives fuel inner false false
        close
        return n
      let capture (name : Option Text) : Reader Node := do
        let index ← openGroup name
        let n ← body flags
        closeGroup index n
        more (.group index n)
      if !(← eat '?') then capture none
      else
        let c ← nextPlain
        match c with
        | 'P' =>
            match ← nextPlain with
            | '<' =>
                let name ← readName '>'
                if !Text.isIdentifier name then refuse
                capture (some name)
            | '=' =>
                let name ← readName ')'
                let index ← namedGroup name
                checkGroup index
                more (.sameAs index flags.folding)
            | _ => refuse
        | ':' => more (← body flags)
        | '>' => more (.atomic (← body flags))
        | '#' =>
            match upTo? ')' (← get).rest with
            | some (_, rest) =>
                moveTo rest
                readParts fuel flags leading parts
            | none => refuse
        | '=' => more (.ahead true (← body flags))
        | '!' => more (.ahead false (← body flags))
        | '<' =>
            let d ← nextPlain
            if d != '=' && d != '!' then refuse
            let outer := (← get).lookingBehind
            modify fun s => { s with lookingBehind := some (outer.getD (s.opened + 1)) }
            let n ← readAlternatives fuel flags false false
            modify fun s => { s with lookingBehind := outer }
            close
            let width := (n.width (← get).closed).exactly?.filter (· ≤ widthLimit)
            modify fun s => { s with unevenBehind := s.unevenBehind || width.isNone }
            more (.behind (d == '=') (width.getD 0) n)
        | '(' =>
            let index ← readCondition
            let yes ← readParts fuel flags false []
            let no ← if ← eat '|' then readParts fuel flags false [] else pure .empty
            close
            more (.ifGroup index yes no)
        | _ =>
            if !isSwitch c && c != '-' then refuse
            modify fun s => { s with rest := c :: s.rest }
            let (switches, whole) ← readGroupSwitches
            if whole then
              if !leading || !parts.isEmpty then refuse
              modify fun s => { s with
                flags := s.flags.apply ⟨switches.on.filter (· != 'u'), []⟩
                unicode := s.unicode || switches.on.contains 'u' }
              readParts fuel (← get).flags leading parts
            else more (← body (flags.apply switches))

end

def readWhole : Reader Node := do
  let s ← get
  moveTo s.rest
  let node ← readAlternatives (3 * s.rest.length + 3) s.flags true true
  let t ← get
  if t.flags.ascii && t.unicode then throw .clashingAlphabets
  if !t.rest.isEmpty || t.unevenBehind || t.asked.any (t.opened < ·) then refuse
  return node

end Pattern

-- A text that is no pattern is refused.
def Pattern.read [CharNames] (flags : Pattern.Flags) (source : Text) : Except Pattern.ReadError Pattern := do
  let (node, _) ← Pattern.readWhole.run { rest := source, flags }
  return ⟨source, node⟩

end Descent
