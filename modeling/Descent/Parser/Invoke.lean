import Descent.Parser.Combinators
import Descent.Parser.Run
import Descent.Pattern.Matcher

namespace Descent

-- What rules refer to from outside: the targets of the placeholders, the parsers by their ids, and
-- the building of expressions on call. Invocations are recorded only while tracing.
structure Env where
  target? : Nat → Option Parser
  lookUp : String → Except Fault Parser
  build : Expr → Except Fault Parser
  tracing : Bool

abbrev Invocation := Parser → Text → Run Result

namespace PatternUse

-- What is taken and what is left.
def split? : PatternUse → Pattern → Text → Option (Text × Text)
  | .front, p, t => p.front? t
  | .upto, p, t => p.upto? t
  | .greedyUpto, p, t => p.greedyUpto? t

end PatternUse

namespace Rule

def takeChar (c : Char) : Text → Result
  | d :: rest => if d = c then .ok rest (.leaf [c]) else .fail (d :: rest)
  | [] => .fail []

def takePattern (use : PatternUse) (p : Pattern) (t : Text) : Result :=
  match use.split? p t with
  | some (taken, rest) => .ok rest (.leaf taken)
  | none => .fail t

-- Blanks are skipped on both sides of a symbol.
def takeSymbol (literal : Text) (t : Text) : Result :=
  let front := Text.skipBlanks t
  if literal.isPrefixOf front then
    .ok (Text.skipBlanks (front.drop literal.length)) (.leaf literal)
  else .fail t

variable (invoke : Invocation)

-- One after another on what is left, as long as they succeed.
def runAll : List Parser → Text → Run (Option (Text × List Match))
  | [], t => return some (t, [])
  | p :: ps, t => do
      match ← invoke p t with
      | .failed _ _ => return none
      | .ok rest m =>
          match ← runAll ps rest with
          | none => return none
          | some (last, ms) => return some (last, m :: ms)

-- The first of the alternatives that succeeds, each tried on the same text.
def runFirst : List Parser → Text → Run Result
  | [], t => return .fail t
  | p :: ps, t => do
      match ← invoke p t with
      | .ok rest m => return .ok rest m
      | .failed _ _ => runFirst ps t

-- Repeats a parser until it fails, or until it succeeds without consuming, which is kept once.
def runRepeated (p : Parser) : Nat → Text → Run (Text × List Match)
  | 0, _ => Run.stop .endlessRepetition
  | fuel + 1, t => do
      match ← invoke p t with
      | .failed _ _ => return (t, [])
      | .ok rest m =>
          if rest = t then return (t, [m])
          else
            let (last, ms) ← runRepeated p fuel rest
            return (last, m :: ms)

-- A parser that shortens its text can do so once per character, so that no repetition of one comes to
-- this bound. The surplus is for parsers written by hand that lengthen it. The bound is set here, and no
-- rule of the combinators: it also cuts off a repetition of such a parser that more rounds would end.
def roundsFor (t : Text) : Nat :=
  t.length + 1 + 1000

def repeated (p : Parser) (t : Text) : Run (Text × List Match) :=
  runRepeated invoke p (roundsFor t) t

-- A failure reports the text that was given, whatever the failing parser reports.
def restoring (t : Text) : Result → Result
  | .ok rest m => .ok rest m
  | .failed _ _ => .fail t

def chosen (env : Env) : Next Parser → Except Fault Parser
  | .parser p => .ok p
  | .fault f => .error f
  | .build e => env.build e

def runTarget (env : Env) (slot : Nat) (name : String) (t : Text) : Run Result :=
  match env.target? slot with
  | some p => invoke p t
  | none => Run.stop (.mistake (.forwardUndefined name))

def perform (env : Env) : Rule Parser → Text → Run Result
  | .char c, t => return takeChar c t
  | .pattern use p, t => return takePattern use p t
  | .symbol literal, t => return takeSymbol literal t
  | .whiteSpace, t => return .ok (Text.skipBlanks t) .empty
  | .sequence items reducer, t => do
      match ← runAll invoke items t with
      | none => return .fail t
      | some (rest, ms) => return .ok rest (← Run.lift (reducer.apply ms))
  | .choice alternatives, t => runFirst invoke alternatives t
  | .attempt p, t => do return restoring t (← invoke p t)
  | .maybe p, t => do
      match ← invoke p t with
      | .ok rest m => return .ok rest m
      | .failed _ _ => return .ok t .empty
  | .many p, t => do
      let (rest, ms) ← repeated invoke p t
      return .ok rest (.seq ms)
  | .many1 p, t => do
      let (rest, ms) ← repeated invoke p t
      if ms.isEmpty then return .fail t else return .ok rest (.seq ms)
  | .sepBy element following, t => do
      match ← invoke element t with
      | .failed _ _ => return .ok t (.seq [])
      | .ok rest m =>
          if rest = t then return .ok rest (.seq [m])
          else
            let (last, ms) ← repeated invoke following rest
            return .ok last (.seq (m :: ms))
  | .label name p, t => do
      match ← invoke p t with
      | .ok rest m => return .ok rest (.labeled name m)
      | .failed _ _ => return .fail t
  | .lexeme p, t => do
      match ← invoke p t with
      | .ok rest m => return .ok (Text.skipBlanks rest) m
      | .failed _ _ => return .fail t
  | .bind first next, t => do
      match ← invoke first t with
      | .failed _ _ => return .fail t
      | .ok rest m =>
          let p ← Run.lift (chosen env (next m))
          return restoring t (← invoke p rest)
  | .succeed m, t => return .ok t m
  | .forward slot name, t => runTarget invoke env slot name t
  | .follow slot name, t => runTarget invoke env slot name t
  | .lookUp id, t => do
      let p ← Run.lift (env.lookUp id)
      invoke p t
  | .custom f, t => Run.lift (f.apply t)

theorem perform_copied (env : Env) (rule : Rule Parser) (t : Text) :
    perform invoke env rule.copied t = perform invoke env rule t := by
  cases rule <;> rfl

end Rule

namespace Parser

-- Puts the record of an invocation behind those of the invocations it made.
def noted (tracing : Bool) (p : Parser) (t : Text) (run : Run Result) : Run Result := do
  let r ← run
  if tracing then ⟨.ok r, [⟨p.shown, r.succeeded, t⟩]⟩ else return r

-- Every nested invocation has one less left of the nesting limit.
def invoke (env : Env) : Nat → Invocation
  | 0, _, _ => Run.stop .nestingExceeded
  | limit + 1, p, t => noted env.tracing p t (p.rule.perform (invoke env limit) env t)

theorem invoke_zero (env : Env) (p : Parser) (t : Text) :
    p.invoke env 0 t = Run.stop .nestingExceeded := rfl

theorem invoke_succ (env : Env) (limit : Nat) (p : Parser) (t : Text) :
    p.invoke env (limit + 1) t =
      p.noted env.tracing t (p.rule.perform (invoke env limit) env t) := rfl

-- Records are put behind a result and never change it.
theorem outcome_noted (tracing : Bool) (p : Parser) (t : Text) (run : Run Result) :
    (p.noted tracing t run).outcome = run.outcome := by
  cases h : run.outcome with
  | error e => exact congrArg Run.outcome (Run.bind_of_error _ h)
  | ok r =>
      refine (congrArg Run.outcome (Run.bind_of_ok _ h)).trans ?_
      cases tracing <;> rfl

theorem outcome_succeed (env : Env) (limit : Nat) (m : Match) (t : Text) :
    ((succeed m).invoke env (limit + 1) t).outcome = .ok (.ok t m) := by
  rw [invoke_succ, outcome_noted]
  rfl

-- A copy under another name does what the parser does, and is no invocation of its own.
theorem outcome_named (env : Env) (name : Plain) (limit : Nat) (p : Parser) (t : Text) :
    ((p.named name).invoke env limit t).outcome = (p.invoke env limit t).outcome := by
  cases limit with
  | zero => rfl
  | succ limit =>
      rw [invoke_succ, invoke_succ, outcome_noted, outcome_noted]
      exact congrArg Run.outcome (Rule.perform_copied (invoke env limit) env p.rule t)

end Parser

end Descent
