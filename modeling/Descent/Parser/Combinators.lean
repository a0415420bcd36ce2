import Descent.Parser.Basic

namespace Descent.Parser

-- A parser shows the call that made it, unless it is given a name.
def calling (word inside : String) : Plain :=
  .text (word ++ "(" ++ inside ++ ")")

def namesOf (ps : List Parser) : List String :=
  ps.map (·.shown)

def char (c : Char) : Parser :=
  ⟨calling "char" (Text.quoted [c]), .char c⟩

def pattern (use : PatternUse) (p : Pattern) : Parser :=
  let word := match use with
    | .front => "regex"
    | .upto => "upto"
    | .greedyUpto => "greedy_upto"
  ⟨calling word (Text.quoted p.source), .pattern use p⟩

def symbol (literal : Text) : Parser :=
  ⟨calling "symbol" (Text.quoted literal), .symbol literal⟩

def whiteSpace : Parser :=
  ⟨"white_space", .whiteSpace⟩

def sequence (items : List Parser) (reducer : Reducer) : Parser :=
  ⟨calling "sequence" (", ".intercalate (namesOf items)), .sequence items reducer⟩

def choice (alternatives : List Parser) : Parser :=
  ofRule (" | ".intercalate (namesOf alternatives)) (.choice alternatives)

def attempt (p : Parser) : Parser :=
  ⟨calling "try" p.shown, .attempt p⟩

def maybe (p : Parser) : Parser :=
  ⟨calling "maybe" p.shown, .maybe p⟩

def many (p : Parser) : Parser :=
  ⟨calling "many" p.shown, .many p⟩

def many1 (p : Parser) : Parser :=
  ⟨calling "many1" p.shown, .many1 p⟩

def parens (p : Parser) : Parser :=
  (sequence [char '(', p, char ')'] (.nth 1)).named (calling "parens" p.shown)

-- Behind the first element follow pairs of a separator and an element, of which the element is
-- kept.
def sepBy (separator element : Parser) : Parser :=
  ⟨calling "sep_by" (separator.shown ++ ", " ++ element.shown),
    .sepBy element (sequence [separator, element] (.nth 1))⟩

def oneOf (literals : List Text) : Parser :=
  (choice (literals.map symbol)).named
    ("one_of([" ++ ", ".intercalate (literals.map Text.quoted) ++ "])")

def label (name : String) (p : Parser) : Parser :=
  ⟨name ++ ":" ++ p.shown, .label name p⟩

def lexeme (p : Parser) : Parser :=
  ⟨calling "lexeme" p.shown, .lexeme p⟩

def bind (first : Parser) (next : Match → Next Parser) : Parser :=
  ⟨calling "bind" first.shown, .bind first next⟩

def succeed (value : Match) : Parser :=
  ⟨calling "return" value.render, .succeed value⟩

-- The placeholder of a slot. Its faults name it as it is named here.
def forward (slot : Nat) (name : Plain) : Parser :=
  let own : Plain := if name.truthy then name else "_invoke_target"
  ⟨own, .forward slot own.display⟩

def lookUp (id : String) (name : Plain) : Parser :=
  ofRule name (.lookUp id)

def custom (function : Custom) (name : Plain) : Parser :=
  ofRule name (.custom function)

def oneOrMore (test : Pattern.CharTest) : Pattern.Node :=
  .times 1 none .greedy (.one test)

def wordPattern : Pattern :=
  ⟨['\\', 'w', '+'], oneOrMore (.named .word false false)⟩

-- Digits of ASCII alone.
def naturalPattern : Pattern :=
  ⟨['[', '0', '-', '9', ']', '+'], oneOrMore ⟨false, [.range '0'.toNat '9'.toNat], .exact⟩⟩

def word : Parser :=
  (pattern .front wordPattern).named "word"

def natural : Parser :=
  (pattern .front naturalPattern).named "natural"

def comma : Parser :=
  (symbol [',']).named "comma"

def semi : Parser :=
  (symbol [';']).named "semi"

end Descent.Parser
