import Descent.Proofs.Naming

namespace Descent

-- What comes of parsers on texts.
abbrev Outcomes := Parser → Text → Except Fault Result

def Invocation.outcomes (invoke : Invocation) : Outcomes :=
  fun p t => (invoke p t).outcome

namespace Rule

-- What is still to be invoked behind a success; a failure or a fault is the last.
def behindSuccess (outcome : Except Fault Result) (next : Text → Match → List (Parser × Text)) :
    List (Parser × Text) :=
  match outcome with
  | .ok (.ok rest m) => next rest m
  | _ => []

variable (outcome : Outcomes)

-- One after another, up to the first that does not succeed.
def callsOfAll : List Parser → Text → List (Parser × Text)
  | [], _ => []
  | p :: ps, t => (p, t) :: behindSuccess (outcome p t) fun rest _ => callsOfAll ps rest

-- Each on the same text, up to the first that does not fail.
def callsOfFirst : List Parser → Text → List (Parser × Text)
  | [], _ => []
  | p :: ps, t => (p, t) :: match outcome p t with
    | .ok (.failed _ _) => callsOfFirst ps t
    | _ => []

-- Rounds of one parser. The one that fails or takes nothing is the last.
def callsOfRounds (p : Parser) : Nat → Text → List (Parser × Text)
  | 0, _ => []
  | fuel + 1, t => (p, t) :: behindSuccess (outcome p t) fun rest _ =>
      if rest = t then [] else callsOfRounds p fuel rest

-- The invocations that a rule makes on a text, in their order.
def calls (env : Env) : Rule Parser → Text → List (Parser × Text)
  | .sequence items _, t => callsOfAll outcome items t
  | .choice alternatives, t => callsOfFirst outcome alternatives t
  | .attempt p, t | .maybe p, t | .label _ p, t | .lexeme p, t => [(p, t)]
  | .many p, t | .many1 p, t => callsOfRounds outcome p (roundsFor t) t
  | .sepBy element following, t => (element, t) :: behindSuccess (outcome element t) fun rest _ =>
      if rest = t then [] else callsOfRounds outcome following (roundsFor rest) rest
  | .bind first next, t => (first, t) :: behindSuccess (outcome first t) fun rest m =>
      ((chosen env (next m)).toOption.map (·, rest)).toList
  | .forward slot _, t | .follow slot _, t => ((env.target? slot).map (·, t)).toList
  | .lookUp id, t => ((env.lookUp id).toOption.map (·, t)).toList
  | .char _, _ | .pattern _ _, _ | .symbol _, _ | .whiteSpace, _ | .succeed _, _ | .custom _, _ => []

end Rule

namespace Run

variable {α β : Type}

theorem trace_bind_of_ok {x : Run α} {a : α} (f : α → Run β) (h : x.outcome = .ok a) :
    (x >>= f).trace = x.trace ++ (f a).trace :=
  congrArg trace (bind_of_ok f h)

theorem trace_bind_of_error {x : Run α} {e : Fault} (f : α → Run β) (h : x.outcome = .error e) :
    (x >>= f).trace = x.trace :=
  congrArg trace (bind_of_error f h)

theorem trace_bind_silent (x : Run α) {f : α → Run β} (h : ∀ a, (f a).trace = []) :
    (x >>= f).trace = x.trace := by
  cases hx : x.outcome with
  | ok a => rw [trace_bind_of_ok f hx, h, List.append_nil]
  | error e => exact trace_bind_of_error f hx

end Run

namespace Rule

variable {invoke : Invocation} {env : Env} {p : Parser} {t : Text}

-- The records of some invocations, one behind the other.
def recorded (invoke : Invocation) (calls : List (Parser × Text)) : List Record :=
  calls.flatMap fun c => (invoke c.1 c.2).trace

theorem recorded_cons (p : Parser) (t : Text) (calls : List (Parser × Text)) :
    recorded invoke ((p, t) :: calls) = (invoke p t).trace ++ recorded invoke calls :=
  List.flatMap_cons

theorem recorded_singleton (p : Parser) (t : Text) :
    recorded invoke [(p, t)] = (invoke p t).trace :=
  List.flatMap_singleton ..

theorem trace_behindSuccess {β : Type} {f : Result → Run β}
    {next : Text → Match → List (Parser × Text)} (hfailed : ∀ u v, (f (.failed u v)).trace = [])
    (hok : ∀ u m, (f (.ok u m)).trace = recorded invoke (next u m)) :
    (invoke p t >>= f).trace =
      recorded invoke ((p, t) :: behindSuccess (invoke.outcomes p t) next) := by
  rw [recorded_cons, Invocation.outcomes]
  cases h : (invoke p t).outcome with
  | error e => rw [Run.trace_bind_of_error f h]; exact (List.append_nil _).symm
  | ok r =>
      rw [Run.trace_bind_of_ok f h]
      cases r with
      | failed u v => rw [hfailed]; rfl
      | ok u m => rw [hok]; rfl

theorem trace_runAll (ps : List Parser) (t : Text) :
    (runAll invoke ps t).trace = recorded invoke (callsOfAll invoke.outcomes ps t) := by
  induction ps generalizing t with
  | nil => rfl
  | cons p ps ih =>
      refine trace_behindSuccess (fun _ _ => rfl) fun u m => ?_
      exact (Run.trace_bind_silent _ fun o => by cases o <;> rfl).trans (ih u)

theorem trace_runFirst (ps : List Parser) (t : Text) :
    (runFirst invoke ps t).trace = recorded invoke (callsOfFirst invoke.outcomes ps t) := by
  induction ps with
  | nil => rfl
  | cons p ps ih =>
      rw [runFirst, callsOfFirst, recorded_cons, Invocation.outcomes]
      cases h : (invoke p t).outcome with
      | error e => rw [Run.trace_bind_of_error _ h]; exact (List.append_nil _).symm
      | ok r =>
          rw [Run.trace_bind_of_ok _ h]
          cases r with
          | failed u v => exact congrArg _ ih
          | ok u m => rfl

theorem trace_runRepeated (p : Parser) (fuel : Nat) (t : Text) :
    (runRepeated invoke p fuel t).trace = recorded invoke (callsOfRounds invoke.outcomes p fuel t) := by
  induction fuel generalizing t with
  | zero => rfl
  | succ fuel ih =>
      refine trace_behindSuccess (fun _ _ => rfl) fun u m => ?_
      by_cases hidle : u = t
      · simp only [hidle, if_true]
        rfl
      · simp only [hidle, if_false]
        exact (Run.trace_bind_silent _ fun _ => rfl).trans (ih u)

theorem trace_runTarget (slot : Nat) (name : String) (t : Text) :
    (runTarget invoke env slot name t).trace =
      recorded invoke ((env.target? slot).map (·, t)).toList := by
  unfold runTarget
  cases env.target? slot with
  | none => rfl
  | some p => exact (recorded_singleton p t).symm

theorem trace_lift_bind {x : Except Fault Parser} {f : Parser → Run Result}
    (h : ∀ p, (f p).trace = (invoke p t).trace) :
    (Run.lift x >>= f).trace = recorded invoke (x.toOption.map (·, t)).toList := by
  cases x with
  | error e => rfl
  | ok p => exact (h p).trans (recorded_singleton p t).symm

-- Whatever invocations put on record, a rule puts nothing between.
theorem trace_perform (rule : Rule Parser) (t : Text) :
    (perform invoke env rule t).trace = recorded invoke (rule.calls invoke.outcomes env t) := by
  have hsingle : ∀ {p : Parser} {f : Result → Run Result}, (∀ r, (f r).trace = []) →
      (invoke p t >>= f).trace = recorded invoke [(p, t)] :=
    fun h => (Run.trace_bind_silent _ h).trans (recorded_singleton _ t).symm
  cases rule with
  | sequence items reducer =>
      refine (Run.trace_bind_silent _ fun o => ?_).trans (trace_runAll items t)
      rcases o with _ | ⟨rest, ms⟩
      · rfl
      · exact Run.trace_bind_silent _ fun _ => rfl
  | choice alternatives => exact trace_runFirst alternatives t
  | attempt p => exact hsingle fun _ => rfl
  | maybe p | label name p | lexeme p => exact hsingle fun r => by cases r <;> rfl
  | many p => exact (Run.trace_bind_silent _ fun _ => rfl).trans (trace_runRepeated p _ t)
  | many1 p =>
      refine (Run.trace_bind_silent _ fun a => ?_).trans (trace_runRepeated p _ t)
      obtain ⟨rest, ms⟩ := a
      cases ms <;> rfl
  | sepBy element following =>
      refine trace_behindSuccess (fun _ _ => rfl) fun u m => ?_
      by_cases hidle : u = t
      · simp only [hidle, if_true]
        rfl
      · simp only [hidle, if_false]
        exact (Run.trace_bind_silent _ fun _ => rfl).trans (trace_runRepeated following _ u)
  | bind first next =>
      refine trace_behindSuccess (fun _ _ => rfl) fun u m => ?_
      exact trace_lift_bind fun p => Run.trace_bind_silent _ fun _ => rfl
  | forward slot name | follow slot name => exact trace_runTarget slot name t
  | lookUp id => exact trace_lift_bind fun _ => rfl
  | _ => rfl

end Rule

-- An invocation that was made, how it ended, and the invocations that were made in it.
structure Call where
  parser : Parser
  text : Text
  outcome : Except Fault Result
  inner : List Call

namespace Call

mutual

-- The invocations in the order of their ends.
def postorder : Call → List Call
  | ⟨p, t, outcome, inner⟩ => postorderOf inner ++ [⟨p, t, outcome, inner⟩]

def postorderOf : List Call → List Call
  | [] => []
  | c :: cs => c.postorder ++ postorderOf cs

end

-- An invocation that is still in progress when a fault is raised leaves no record.
def record? (c : Call) : Option Record :=
  match c.outcome with
  | .ok r => some ⟨c.parser.shown, r.succeeded, c.text⟩
  | .error _ => none

def records (c : Call) : List Record :=
  c.postorder.filterMap record?

theorem postorderOf_eq_flatMap (cs : List Call) : postorderOf cs = cs.flatMap postorder := by
  induction cs with
  | nil => rfl
  | cons c cs ih => rw [postorderOf, ih, List.flatMap_cons]

-- The records of what was invoked, in the order in which it was invoked, and then the own one.
theorem records_eq (c : Call) : c.records = c.inner.flatMap records ++ c.record?.toList := by
  obtain ⟨p, t, outcome, inner⟩ := c
  rw [records, postorder, postorderOf_eq_flatMap, List.filterMap_append, List.filterMap_flatMap]
  cases outcome <;> rfl

end Call

namespace Parser

-- The tree of the invocations under a nesting limit.
def call (env : Env) : Nat → Parser → Text → Call
  | 0, p, t => ⟨p, t, .error .nestingExceeded, []⟩
  | limit + 1, p, t =>
      ⟨p, t, (p.invoke env (limit + 1) t).outcome,
        (p.rule.calls (Invocation.outcomes (invoke env limit)) env t).map fun c =>
          call env limit c.1 c.2⟩

theorem outcome_call (env : Env) (limit : Nat) (p : Parser) (t : Text) :
    (p.call env limit t).outcome = (p.invoke env limit t).outcome := by
  cases limit <;> rfl

theorem trace_noted (p : Parser) (t : Text) (run : Run Result) :
    (p.noted true t run).trace = run.trace ++ match run.outcome with
      | .ok r => [⟨p.shown, r.succeeded, t⟩]
      | .error _ => [] := by
  rw [noted]
  cases h : run.outcome with
  | ok r => rw [Run.trace_bind_of_ok _ h]; rfl
  | error e => rw [Run.trace_bind_of_error _ h, List.append_nil]

-- One invocation: the records of those below it, as they are made, and then its own one.
theorem trace_invoke (env : Env) (limit : Nat) (p : Parser) (t : Text) :
    (p.invoke env.traced limit t).trace = (p.call env.traced limit t).records := by
  induction limit generalizing p t with
  | zero => rfl
  | succ limit ih =>
      have hinner : ∀ calls, Rule.recorded (invoke env.traced limit) calls =
          (calls.map fun c => call env.traced limit c.1 c.2).flatMap Call.records := by
        intro calls
        rw [List.flatMap_map]
        exact congrArg (calls.flatMap ·) (funext fun c => ih c.1 c.2)
      have hown : (p.rule.perform (invoke env.traced limit) env.traced t).outcome =
          (p.invoke env.traced (limit + 1) t).outcome := by rw [invoke_succ, outcome_noted]
      have htrace : (p.invoke env.traced (limit + 1) t).trace =
          (p.noted true t (p.rule.perform (invoke env.traced limit) env.traced t)).trace := rfl
      rw [Call.records_eq, htrace, trace_noted, Rule.trace_perform, hinner, hown]
      congr 1
      simp only [call, Call.record?]
      cases (p.invoke env.traced (limit + 1) t).outcome <;> rfl

theorem getLast?_trace {env : Env} {limit : Nat} {p : Parser} {t : Text} {r : Result}
    (h : (p.invoke env.traced limit t).outcome = .ok r) :
    (p.invoke env.traced limit t).trace.getLast? = some ⟨p.shown, r.succeeded, t⟩ := by
  have hrecord : (p.call env.traced limit t).record? = some ⟨p.shown, r.succeeded, t⟩ := by
    have hcall : (p.call env.traced limit t).outcome = .ok r := by rw [outcome_call, h]
    rw [Call.record?, hcall]
    cases limit <;> rfl
  rw [trace_invoke, Call.records_eq, hrecord]
  exact List.getLast?_concat

-- Neither records nor names have a part in what comes of an invocation: not whether records are taken;
-- not the names of parsers and of all that they refer to; nor, in a grammar as it is written, names that
-- are put onto parsers anywhere. The records are those of the completed invocations in the order of their
-- ends, so that behind a result the last one is that of the root. Repetitions of parsers that lengthen their
-- text are cut off by the same bound on rounds in all the runs that are compared.
theorem invoke_observed [CharNames] (limit : Nat) (t : Text) :
    (∀ (env : Env) (p : Parser),
      (p.invoke env.traced limit t).outcome = (p.invoke env.untraced limit t).outcome ∧
      (p.invoke env.traced limit t).trace =
        (p.call env.traced limit t).postorder.filterMap Call.record? ∧
      ∀ r, (p.invoke env.traced limit t).outcome = .ok r →
        (p.invoke env.traced limit t).trace.getLast? = some ⟨p.shown, r.succeeded, t⟩) ∧
    (∀ (alike : Expr → Expr → Prop) (env env' : Env) (p p' : Parser), env.Like alike env' →
      p.Like alike p' → (p.invoke env limit t).outcome = (p'.invoke env' limit t).outcome) ∧
    (∀ (rules rules' : List (String × Expr)) (e e' : Expr) (s : Store) (p : Parser),
      Store.RulesRenamed rules rules' → e.Renamed e' → Store.ofRules rules = .ok s →
      s.parser e = .ok p → ∃ s' p', Store.ofRules rules' = .ok s' ∧ s'.parser e' = .ok p' ∧
        ∀ tracing tracing', (p.invoke (s.env tracing) limit t).outcome =
          (p'.invoke (s'.env tracing') limit t).outcome) := by
  refine ⟨fun env p => ⟨?_, trace_invoke env limit p t, fun r => getLast?_trace⟩, ?_, ?_⟩
  · exact (like_refl (fun _ => rfl) p).outcome_eq env.like_untraced limit t
  · exact fun alike env env' p p' henv hp => hp.outcome_eq henv limit t
  · intro rules rules' e e' s p hrules he hs hp
    obtain ⟨s', p', hs', hp', houtcome⟩ := Store.outcome_ofRules_renamed hrules he hs hp
    exact ⟨s', p', hs', hp', fun tracing tracing' => houtcome tracing tracing' limit t⟩

-- A row of numbers and rows, and the same with a name for the numbers, for the rows in a row and for the
-- row itself.
def rowExpr : Expr :=
  .unary .parens (.sepBy (.plain (.text ",")) (.either (.stock .natural) (.ref "row")))

def rowNamed : Expr :=
  .named "cells" (.unary .parens (.sepBy (.plain (.text ","))
    (.either (.named "digits" (.stock .natural)) (.named "inner" (.ref "row")))))

def row : Parser :=
  parens (sepBy (symbol [',']) (choice [natural, forward 0 "row"]))

def rows : Store where
  targets := [some row]
  ids := [("row", forward 0 "row")]

theorem rowExpr_renamed : rowExpr.Renamed rowNamed := by
  have hcell : (Expr.either (.stock .natural) (.ref "row")).Renamed
      (.either (.named "digits" (.stock .natural)) (.named "inner" (.ref "row"))) :=
    .either id (.inserted "digits" id trivial (fun _ => rfl) (.same _))
      (.inserted "inner" id trivial (fun _ => rfl) (.same _))
  exact .inserted "cells" id trivial (fun _ => rfl) (.unary .parens (.sepBy (.same _) hcell))

attribute [local instance] CharNames.nameless

theorem invoke_observed_rows :
    (∃ s' p', Store.ofRules [("row", rowNamed)] = .ok s' ∧
      s'.parser (.unary .maybe (.named "top" (.ref "row"))) = .ok p' ∧
      (p'.invoke (s'.env false) 6 ['(', '1', ')']).outcome = .ok (.ok [] (.seq [.leaf ['1']]))) ∧
    (((maybe (forward 0 "row")).named "top").invoke (rows.env true).untraced 6 ['(', '1', ')']).outcome =
      .ok (.ok [] (.seq [.leaf ['1']])) ∧
    ((maybe (forward 0 "row")).invoke (rows.env true).traced 6 ['(', '1', ')']).trace.getLast? =
      some ⟨"maybe(row)", true, ['(', '1', ')']⟩ := by
  have hrules : Store.RulesRenamed [("row", rowExpr)] [("row", rowNamed)] :=
    .cons ⟨rfl, rowExpr_renamed⟩ .nil
  have htop : (Expr.unary .maybe (.ref "row")).Renamed (.unary .maybe (.named "top" (.ref "row"))) :=
    .unary .maybe (.inserted "top" id trivial (fun _ => rfl) (.same _))
  have hsimilar : (maybe (forward 0 "row")).Like Eq ((maybe (forward 0 "row")).named "top") :=
    (like_refl (fun _ => rfl) _).named "top"
  have hok : ((maybe (forward 0 "row")).invoke (rows.env true).traced 6 ['(', '1', ')']).outcome =
      .ok (.ok [] (.seq [.leaf ['1']])) := rfl
  obtain ⟨hrecords, hnames, hgrammar⟩ := invoke_observed 6 ['(', '1', ')']
  obtain ⟨s', p', hs', hp', houtcome⟩ := hgrammar _ _ _ _ rows (maybe (forward 0 "row")) hrules htop rfl rfl
  obtain ⟨-, -, hlast⟩ := hrecords (rows.env true) (maybe (forward 0 "row"))
  have hnamed := hnames Eq _ _ _ _ (rows.env true).like_untraced hsimilar
  exact ⟨⟨s', p', hs', hp', (houtcome true false).symm.trans hok⟩, hnamed.symm.trans hok, hlast _ hok⟩

end Parser

end Descent
