import Descent.Parser.Invoke
import Descent.Position
import Descent.Tree

namespace Descent

-- Where and how a runner gave up on a source.
structure Stop where
  diagnostic : Diagnostic
  source : Text
  remaining : Text
deriving Repr

namespace Stop

def position (source remaining : Text) : Int :=
  (source.length : Int) - remaining.length

end Stop

inductive Failure where
  | fault (f : Fault)
  | sourceTooLong (size : Nat) (limit : Int)
  | recursion
  | position (e : PositionError)
  | span (e : SpanError)
  | rejected (stop : Stop)
  | incomplete (stop : Stop)
  | foreignNode (value : Plain)
deriving Repr

namespace Failure

-- The limit that reports speak of.
def reportedLimit : Nat := 1000

def recursionDiagnostic (limit : String) : Diagnostic where
  code := .recursionLimitExceeded
  message := "Parsing exceeded the Python recursion limit (" ++ limit ++ ")"
  hint := some ("Check the grammar for left recursion (a rule that invokes itself " ++
    "before consuming input)")

-- What a report shows of the input that remains.
def shown (remaining : Text) : String :=
  Text.quoted (Text.abbreviate remaining)

-- The same of a value that stands in the place of that input. Only a short list has what it takes.
def shownPlain : Plain → Except Fault String
  | .text s => .ok (shown s.toList)
  | .list items =>
      if items.length ≤ Text.shownWidth then .ok (Plain.list items).render
      else .error (.notJoinable (Plain.list items).typeName)
  | v => .error (.withoutLength v.typeName)

def rejection (span : Option Span) (shown : String) (context : Option Text) : Diagnostic where
  code := .parseFailed
  message := "Input rejected by grammar at " ++ shown
  span := span
  context := context

def leftover (span : Option Span) (shown : String) (context : Option Text) : Diagnostic where
  code := .parseIncomplete
  message := "Unparsed input remains: " ++ shown
  span := span
  hint := some "Extend the grammar or pass require_complete=False"
  context := context

def diagnostic? : Failure → Option Diagnostic
  | .fault (.mistake m) => some m.diagnostic
  | .recursion => some (recursionDiagnostic (toString reportedLimit))
  | .rejected stop => some stop.diagnostic
  | .incomplete stop => some stop.diagnostic
  | _ => none

def message : Failure → String
  | .fault f => f.message
  | .sourceTooLong size limit =>
      "Source size (" ++ Text.grouped size ++ " characters) exceeds maximum (" ++
        Text.grouped limit ++ " characters). " ++
        "Configure max_source_size in GrammarRunner constructor to increase limit."
  | .recursion => (recursionDiagnostic (toString reportedLimit)).message
  | .position e => e.message
  | .span e => e.message
  | .rejected stop => stop.diagnostic.message
  | .incomplete stop => stop.diagnostic.message
  | .foreignNode v => "Not a match value: " ++ v.typeName

end Failure

inductive LogEntry where
  | invocation (r : Record)
  | ran (name : String) (matched : Bool) (consumed : Int) (total : Nat)
  | failedAt (line column : Nat)
  | incompleteAt (line column : Nat)
deriving Repr, DecidableEq

namespace LogEntry

def render : LogEntry → String
  | .invocation r => "DEBUG " ++ r.render
  | .ran name matched consumed total =>
      "DEBUG " ++ name ++ (if matched then " matched, consumed " else " failed, consumed ") ++
        toString consumed ++ " of " ++ toString total ++ " characters"
  | .failedAt line column =>
      "INFO Parse failed at line " ++ toString line ++ ", column " ++ toString column
  | .incompleteAt line column =>
      "INFO Parse incomplete at line " ++ toString line ++ ", column " ++ toString column

end LogEntry

-- What a run came to, and what was logged until then.
structure Report (α : Type) where
  outcome : Except Failure α
  log : List LogEntry

namespace Report

variable {α β : Type}

def andThen (x : Report α) (f : α → Report β) : Report β :=
  match x.outcome with
  | .ok a =>
      let y := f a
      ⟨y.outcome, x.log ++ y.log⟩
  | .error e => ⟨.error e, x.log⟩

def fail (e : Failure) : Report α := ⟨.error e, []⟩

def lift (x : Except Failure α) : Report α := ⟨x, []⟩

instance : Monad Report where
  pure a := ⟨.ok a, []⟩
  bind := andThen

def note (entry : LogEntry) : Report Unit := ⟨.ok (), [entry]⟩

theorem fail_bind (e : Failure) (f : α → Report β) : fail e >>= f = fail e := rfl

theorem outcome_bind (x : Report α) (f : α → Report β) :
    (x >>= f).outcome = x.outcome >>= fun a => (f a).outcome := by
  cases h : x.outcome <;> simp [Bind.bind, andThen, h, Except.bind]

end Report

-- How many nested invocations are tried before a grammar is taken to be left recursive.
def nestingLimit : Nat := 500

structure Runner where
  maxSourceSize : Int
  requireComplete : Bool
deriving Repr, DecidableEq

namespace Runner

def defaultSourceSize : Int := 10 * 1024 * 1024

def ofOptions (maxSourceSize : Option Int) (requireComplete : Bool) : Runner :=
  ⟨maxSourceSize.getD defaultSourceSize, requireComplete⟩

def standard : Runner := ofOptions none true

-- No limit of size is in force unless it is positive.
def checkSize (r : Runner) (size : Nat) : Except Failure Unit :=
  if 0 < r.maxSourceSize ∧ r.maxSourceSize < size then
    .error (.sourceTooLong size r.maxSourceSize)
  else .ok ()

-- The bare call of a parser.
def call (env : Env) (limit : Nat) (p : Parser) (source : Text) : Report Result :=
  let run := p.invoke env limit source
  ⟨run.outcome.mapError .fault, run.trace.map .invocation⟩

def asRecursion : Failure → Failure
  | .fault .nestingExceeded => .recursion
  | f => f

def guarded (x : Report Result) : Report Result :=
  ⟨x.outcome.mapError asRecursion, x.log⟩

def run (r : Runner) (env : Env) (limit : Nat) (p : Parser) (source : Text) : Report Result := do
  Report.lift (r.checkSize source.length)
  let result ← guarded (call env limit p source)
  Report.note (.ran p.shown result.succeeded (Stop.position source result.rest) source.length)
  return result

def spanAt (source remaining : Text) : Except Failure Span :=
  let start := Stop.position source remaining
  match Position.lineCol source start with
  | .error e => .error (.position e)
  | .ok (line, column) => (Span.ofInts start source.length line column).mapError .span

-- The place of a stop with the excerpt around it.
def locate (source remaining : Text) : Except Failure (Span × Text) := do
  let span ← spanAt source remaining
  let context ← (Position.excerpt source span.start Position.contextLines).mapError .position
  return (span, context)

-- Blanks may be left over.
def isSpent (remaining : Text) : Bool :=
  remaining.all Text.isBlank

def treeOf (m : Match) : Except Failure (Option Tree) :=
  (Tree.ofMatch m).mapError .foreignNode

def finish (r : Runner) (source : Text) : Result → Report (Option Tree)
  | .failed rest _ => do
      let (span, context) ← Report.lift (locate source rest)
      Report.note (.failedAt span.line span.column)
      let diagnostic := Failure.rejection span (Failure.shown rest) context
      Report.fail (.rejected ⟨diagnostic, source, rest⟩)
  | .ok rest m =>
      if r.requireComplete && !isSpent rest then do
        let (span, context) ← Report.lift (locate source rest)
        Report.note (.incompleteAt span.line span.column)
        let diagnostic := Failure.leftover span (Failure.shown rest) context
        Report.fail (.incomplete ⟨diagnostic, source, rest⟩)
      else Report.lift (treeOf m)

def parse (r : Runner) (env : Env) (limit : Nat) (p : Parser) (source : Text) :
    Report (Option Tree) := do
  let result ← r.run env limit p source
  r.finish source result

end Runner

end Descent
