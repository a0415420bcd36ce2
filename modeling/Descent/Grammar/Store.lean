import Descent.Grammar.Build
import Descent.Parser.Invoke

namespace Descent

-- The targets of the placeholders and the parsers that the ids mean. A placeholder gets a target at
-- most once; an id may come to mean another parser.
structure Store where
  targets : List (Option Parser) := []
  ids : List (String × Parser) := []

namespace Store

def empty : Store := {}

def target? (s : Store) (slot : Nat) : Option Parser :=
  (s.targets[slot]?).join

def lookUp (s : Store) (id : String) : Except Fault Parser :=
  match s.ids.find? (·.1 == id) with
  | some (_, p) => .ok p
  | none => .error (.unbound id)

def assign (s : Store) (id : String) (p : Parser) : Store :=
  { s with ids := (id, p) :: s.ids.filter (·.1 != id) }

def build [CharNames] (s : Store) (e : Expr) : Except Fault Item :=
  e.build s.lookUp

def parser [CharNames] (s : Store) (e : Expr) : Except Fault Parser :=
  e.parser s.lookUp

-- What a parser refers to while it runs is what the store holds at that time.
def env [CharNames] (s : Store) (tracing : Bool) : Env where
  target? := s.target?
  lookUp := s.lookUp
  build e := do (← s.build e).callable
  tracing := tracing

-- A new placeholder under an id.
def declare (s : Store) (id : String) (name : Plain) : Store :=
  { s with targets := s.targets ++ [none] }.assign id (Parser.forward s.targets.length name)

-- Sets the target of a placeholder, which must have none. That is looked at before the target is.
def define (s : Store) (forward : Parser) (item : Item) : Except Fault Store :=
  match forward.rule with
  | .forward slot name =>
      match s.target? slot with
      | some _ => .error (.mistake (.forwardRedefined name))
      | none => do
          let p ← item.asParser
          return { s with targets := s.targets.set slot (some p) }
  | _ => .error (.cannotDefine forward.typeName)

def defineId [CharNames] (s : Store) (id : String) (e : Expr) : Except Fault Store := do
  let forward ← s.lookUp id
  s.define forward (← s.build e)

def rebind [CharNames] (s : Store) (id : String) (e : Expr) : Except Fault Store := do
  return s.assign id (← s.parser e)

def isDefined (s : Store) (forward : Parser) : Bool :=
  match forward.rule with
  | .forward slot _ => (s.target? slot).isSome
  | _ => false

-- Every rule is declared under its id before the first of them is defined.
def declareAll (s : Store) (rules : List (String × Expr)) : Store :=
  rules.foldl (fun s r => s.declare r.1 r.1) s

def defineAll [CharNames] (s : Store) (rules : List (String × Expr)) : Except Fault Store :=
  rules.foldlM (fun s r => s.defineId r.1 r.2) s

def ofRules [CharNames] (rules : List (String × Expr)) : Except Fault Store :=
  (empty.declareAll rules).defineAll rules

end Store

end Descent
