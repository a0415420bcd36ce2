import Descent.Grammar.Store
import Descent.Runner

namespace Descent

-- How a parser is applied: called as it is, or by a runner, with or without the tree as the answer.
inductive Mode where
  | call
  | run (r : Runner)
  | parse (r : Runner)
deriving Repr, DecidableEq

namespace Mode

def runner? : Mode → Option Runner
  | .call => none
  | .run r => some r
  | .parse r => some r

end Mode

structure Application where
  text : Text.Pieces
  mode : Mode
  tracing : Bool

inductive Answer where
  | called (p : Parser) (result : Result) (tree : Option Tree)
  | parsed (tree : Option Tree)

namespace Application

-- A text that is too long for the runner is not written out.
def admitted (a : Application) : Except Failure Text := do
  match a.mode.runner? with
  | some r => r.checkSize a.text.length
  | none => pure ()
  return a.text.toText

-- Only what a success matched is folded into a tree.
def answer (p : Parser) (result : Result) : Report Answer := do
  let tree ← match result with
    | .ok _ m => Report.lift (Runner.treeOf m)
    | .failed _ _ => pure none
  return .called p result tree

def perform [CharNames] (a : Application) (s : Store) (limit : Nat) (p : Parser) : Report Answer := do
  let text ← Report.lift a.admitted
  let env := s.env a.tracing
  match a.mode with
  | .call => answer p (← Runner.call env limit p text)
  | .run r => answer p (← r.run env limit p text)
  | .parse r => return .parsed (← r.parse env limit p text)

end Application

-- Whether the grammar could not be put together, or could not be applied.
inductive Stage where
  | build
  | run
deriving Repr, DecidableEq

structure Refusal where
  stage : Stage
  failure : Failure
  log : List LogEntry

inductive Command where
  | declare (id : String) (name : Plain)
  | define (id : String) (e : Expr)
  | rebind (id : String) (e : Expr)
  | describe (id : String)
  | apply (e : Expr) (a : Application)

inductive Reply where
  | declared (p : Parser) (isDefined : Bool)
  | defined
  | bound (p : Parser)
  | described (p : Parser) (isDefined : Bool)
  | applied (a : Answer) (log : List LogEntry)

namespace Command

def building {α : Type} (x : Except Fault α) : Except Refusal α :=
  x.mapError fun f => ⟨.build, .fault f, []⟩

def applying (report : Report Answer) : Except Refusal Reply :=
  match report.outcome with
  | .ok a => .ok (.applied a report.log)
  | .error f => .error ⟨.run, f, report.log⟩

def attempt [CharNames] (limit : Nat) (s : Store) : Command → Except Refusal (Store × Reply)
  | .declare id name => do
      let t := s.declare id name
      let p ← building (t.lookUp id)
      return (t, .declared p (t.isDefined p))
  | .define id e => do
      return (← building (s.defineId id e), .defined)
  | .rebind id e => do
      let t ← building (s.rebind id e)
      return (t, .bound (← building (t.lookUp id)))
  | .describe id => do
      let p ← building (s.lookUp id)
      return (s, .described p (s.isDefined p))
  | .apply e a => do
      let p ← building (s.parser e)
      return (s, ← applying (a.perform s limit p))

-- A step that fails leaves the store as it was.
def step [CharNames] (limit : Nat) (s : Store) (c : Command) : Store × Except Refusal Reply :=
  match c.attempt limit s with
  | .ok (t, reply) => (t, .ok reply)
  | .error refusal => (s, .error refusal)

-- The answers to a list of commands in their order, and the store at the end.
def steps [CharNames] (limit : Nat) : Store → List Command → Store × List (Except Refusal Reply)
  | s, [] => (s, [])
  | s, c :: cs =>
      let (t, reply) := c.step limit s
      let (last, replies) := steps limit t cs
      (last, reply :: replies)

end Command

-- A grammar with its rules, applied once.
def applyGrammar [CharNames] (limit : Nat) (rules : List (String × Expr)) (e : Expr) (a : Application) :
    Except Refusal Reply := do
  let s ← Command.building (Store.ofRules rules)
  let p ← Command.building (s.parser e)
  Command.applying (a.perform s limit p)

end Descent
