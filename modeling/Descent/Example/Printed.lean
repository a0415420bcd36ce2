import Descent.Example.Declarations
import Descent.Example.FirstSteps

namespace Descent.Example

variable [CharNames]

def heading (width : Nat) (title : String) : List String :=
  let rule := String.ofList (List.replicate width '=')
  [rule, title, rule]

-- A part of the output that an empty line sets off from what is above.
def part (width : Nat) (title : String) (body : List String) : List String :=
  "" :: heading width title ++ body

def treeLine (p : Parser) (s : Store) (source : String) : String :=
  match (p.invoke (s.env false) nestingLimit source.toList).outcome with
  | .ok r => match Tree.ofMatch r.value with
    | .ok tree => Tree.renderOption tree
    | .error v => (Failure.foreignNode v).message
  | .error f => f.message

def restOf (p : Parser) (s : Store) (source : String) : String :=
  match (p.invoke (s.env false) nestingLimit source.toList).outcome with
  | .ok r => Text.quoted r.rest
  | .error f => f.message

def succeeds (p : Parser) (s : Store) (source : String) : String :=
  match (p.invoke (s.env false) nestingLimit source.toList).outcome with
  | .ok r => if r.succeeded then "True" else "False"
  | .error f => f.message

def parseWith (p : Parser) (source : String) : Report (Option Tree) :=
  Runner.standard.parse (Store.empty.env false) nestingLimit p source.toList

def reportLines : Failure → List String
  | f => match f.diagnostic? with
    | some d => (Text.lines d.report).map String.ofList
    | none => [f.message]

def parsedLine (p : Parser) (source : String) : String :=
  match (parseWith p source).outcome with
  | .ok tree => Tree.renderOption tree
  | .error f => f.message

def refusedLines (p : Parser) (source : String) : List String :=
  match (parseWith p source).outcome with
  | .ok _ => []
  | .error f => reportLines f

def offsetLine (p : Parser) (source : String) : List String :=
  match (parseWith p source).outcome with
  | .error (.rejected stop) =>
      ["Rejected at offset " ++ toString (Stop.position stop.source stop.remaining) ++ ": " ++
        stop.diagnostic.message]
  | _ => []

def closing (width : Nat) : List String :=
  part width "[SUCCESS] All examples completed successfully!" [""]

def firstStepsLines : List String :=
  open FirstSteps in
  heading 50 "Example 1: Sequence, Label and Maybe" ++
  [succeeds declaration .empty "var res = 42;" ++ " " ++ restOf declaration .empty "var res = 42;",
   treeLine declaration .empty "var res = 42;",
   treeLine declaration .empty "var res;"] ++
  part 50 "Example 2: Separated Lists"
    [treeLine nameList .empty "u, v, w", treeLine words .empty "u, v, w"] ++
  part 50 "Example 3: Forward References" [treeLine value valueStore "(1, (2, 3))"] ++
  part 50 "Example 4: Monadic Composition"
    [treeLine lengthPrefixed .empty "5hello world" ++ " " ++
      restOf lengthPrefixed .empty "5hello world"] ++
  part 50 "Example 5: GrammarRunner"
    (parsedLine declaration "var answer = 42;" ::
      refusedLines declaration "var x;\nlet y;" ++ offsetLine declaration "var = 1;") ++
  closing 50

namespace Declarations

def source : String :=
  "\ninteger :: i, j, k\nreal, dimension(3, 3), parameter :: identity\n" ++
  "double precision :: tolerance\ncharacter(len=16), save :: name\ninteger(kind=8) :: counter\n"

def recordLines (source : String) : List String :=
  match (parse source.toList).outcome with
  | .error f => [f.message]
  | .ok tree => match normalize tree with
    | .ok records => records.map (·.render)
    | .error _ => []

end Declarations

def declarationsLines : List String :=
  open Declarations in
  heading 60 "Example 1: Parsing Declarations" ++
  recordLines source ++
  part 60 "Example 2: Raw Parse Tree" [parsedLine grammar "logical :: flag"] ++
  part 60 "Example 3: Error Report" (refusedLines grammar "integer :: i\nreal x\n") ++
  closing 60

end Descent.Example
