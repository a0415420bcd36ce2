import Descent.Grammar.Store
import Descent.Runner

namespace Descent.Example.FirstSteps

open Descent.Parser

def declaration : Parser :=
  sequence
    [symbol "var".toList, label "Name" word,
     maybe (sequence [symbol ['='], label "Value" natural] .all), semi] .all

def nameList : Parser :=
  sepBy comma (label "Var" word)

def words : Parser :=
  sepBy comma word

-- The recursive rule stands in the first slot of its store.
def value : Parser :=
  forward 0 "value"

def valueRule : Parser :=
  choice [label "Num" (lexeme natural), parens (sepBy comma value)]

def valueStore : Store where
  targets := [some valueRule]
  ids := [("value", value)]

-- The text of exactly as many characters as the number in front of it says.
def countedText [CharNames] : Match → Next Parser
  | .leaf length =>
      let source := ".\x7b" ++ toString (Pattern.numeral 10 length) ++ "\x7d"
      .ofExcept ((pattern? .front (.text source) {}).map (label "Data"))
  | m => .fault (.withoutText m.typeName)

def lengthPrefixed [CharNames] : Parser :=
  natural.bind countedText

end Descent.Example.FirstSteps
