import Descent.Grammar.Store
import Descent.Proofs.Outcomes

namespace Descent

namespace Rule

-- The parser that a rule invokes first, on the whole of its text.
def head? (env : Env) : Rule Parser → Option Parser
  | .sequence items _ => items.head?
  | .choice alternatives => alternatives.head?
  | .attempt p | .maybe p | .many p | .many1 p | .label _ p | .lexeme p => some p
  | .sepBy element _ => some element
  | .bind first _ => some first
  | .forward slot _ | .follow slot _ => env.target? slot
  | .lookUp id => (env.lookUp id).toOption
  | _ => none

variable {invoke : Invocation} {env : Env} {rule : Rule Parser} {p q : Parser} {t : Text} {e : Fault}

theorem repeated_error_of_head (h : (invoke p t).outcome = .error e) :
    (repeated invoke p t).outcome = .error e := by
  have hrounds : roundsFor t = t.length + 1000 + 1 := by unfold roundsFor; omega
  rw [repeated, hrounds]
  exact Run.outcome_bind_of_error _ h

theorem perform_error_of_head (hq : rule.head? env = some q) (h : (invoke q t).outcome = .error e) :
    (perform invoke env rule t).outcome = .error e := by
  have htarget : ∀ slot name, env.target? slot = some q →
      (runTarget invoke env slot name t).outcome = .error e := by
    intro slot name hslot
    rw [runTarget, hslot]
    exact h
  cases rule with
  | sequence items reducer =>
      cases items with
      | nil => cases hq
      | cons p ps =>
          cases hq
          exact Run.outcome_bind_of_error _ (Run.outcome_bind_of_error _ h)
  | choice alternatives =>
      cases alternatives with
      | nil => cases hq
      | cons p ps =>
          cases hq
          exact Run.outcome_bind_of_error _ h
  | attempt p | maybe p | label name p | lexeme p | sepBy element following | bind first next =>
      cases hq
      exact Run.outcome_bind_of_error _ h
  | many p | many1 p =>
      cases hq
      exact Run.outcome_bind_of_error _ (repeated_error_of_head h)
  | forward slot name | follow slot name => exact htarget slot name hq
  | lookUp id =>
      cases hid : env.lookUp id with
      | error f => simp [head?, hid, Except.toOption] at hq
      | ok p =>
          simp only [head?, hid, Except.toOption, Option.some.injEq] at hq
          subst p
          rw [perform, hid]
          exact h
  | _ => cases hq

end Rule

namespace Parser

-- From one parser to another through heads alone. A copy stands for what it is a copy of.
inductive LeadsTo (env : Env) : Parser → Parser → Prop
  | here (p : Parser) : LeadsTo env p p
  | head {p q r : Parser} : p.rule.head? env = some q → LeadsTo env q r → LeadsTo env p r
  | copy {p r : Parser} (name : String) : LeadsTo env p r → LeadsTo env (p.named name) r

-- Back to itself, with an invocation at least on the way.
def LeftRecursive (env : Env) (p : Parser) : Prop :=
  ∃ q r, p.LeadsTo env q ∧ q.rule.head? env = some r ∧ r.LeadsTo env p

variable {env : Env} {p q r : Parser} {t : Text} {limit : Nat}

theorem LeadsTo.trans (hpq : p.LeadsTo env q) (hqr : q.LeadsTo env r) : p.LeadsTo env r := by
  induction hpq with
  | here p => exact hqr
  | head hhead _ ih => exact .head hhead (ih hqr)
  | copy name _ ih => exact .copy name (ih hqr)

-- What is cut off under all limits up to some level cuts off what leads to it.
theorem LeadsTo.cut (hp : p.LeadsTo env q)
    (hq : ∀ m, m ≤ limit → (q.invoke env m t).outcome = .error .nestingExceeded) :
    (p.invoke env limit t).outcome = .error .nestingExceeded := by
  induction hp generalizing limit with
  | here p => exact hq limit (Nat.le_refl limit)
  | copy name _ ih =>
      rw [outcome_named]
      exact ih hq
  | head hhead _ ih =>
      cases limit with
      | zero => rfl
      | succ limit =>
          rw [invoke_succ, outcome_noted]
          exact Rule.perform_error_of_head hhead (ih fun m hm => hq m (by omega))

-- Each turn of the cycle invokes the parser again on the same text, with less left of the limit.
theorem LeftRecursive.cut (h : p.LeftRecursive env) (limit : Nat) (t : Text) :
    (p.invoke env limit t).outcome = .error .nestingExceeded := by
  obtain ⟨q, r, hpq, hhead, hrp⟩ := h
  have hq : ∀ limit, (q.invoke env limit t).outcome = .error .nestingExceeded := by
    intro limit
    induction limit using Nat.strong_induction_on with
    | _ limit ih =>
        cases limit with
        | zero => rfl
        | succ limit =>
            have hr : (r.invoke env limit t).outcome = .error .nestingExceeded :=
              (hrp.trans hpq).cut fun m hm => ih m (by omega)
            rw [invoke_succ, outcome_noted]
            exact Rule.perform_error_of_head hhead hr
  exact hpq.cut fun m _ => hq m

-- On every text and under every limit, a left recursive parser and all that leads to it through heads
-- exceed the limit, and a runner says so.
theorem left_recursion_reported (hp : p.LeftRecursive env) (hq : q.LeadsTo env p) (limit : Nat)
    (t : Text) :
    (q.invoke env limit t).outcome = .error .nestingExceeded ∧
      ∀ runner : Runner, ¬runner.Refuses t →
        (runner.run env limit q t).outcome = .error .recursion ∧
          (runner.parse env limit q t).outcome = .error .recursion := by
  have hcut : (q.invoke env limit t).outcome = .error .nestingExceeded :=
    hq.cut fun m _ => hp.cut m t
  refine ⟨hcut, fun runner hfits => ?_⟩
  rw [Runner.outcome_parse hfits, Runner.outcome_run hfits, hcut]
  exact ⟨rfl, rfl⟩

-- A sum begins with an addend, under another name and where it may be left out. An addend begins with a
-- list of sums, which are looked up by their id.
def sum : Parser :=
  choice [sequence [maybe ((forward 1 "addend").named "first"), char '+'] .all, word]

def addend : Parser :=
  label "Addend" (many (sepBy comma (lookUp "sum" "sum")))

def sumExpr : Expr :=
  .either (.sequence [.unary .maybe (.named "first" (.ref "addend")), .char (.text "+")] .all)
    (.stock .word)

def addendExpr : Expr :=
  .label (.text "Addend") (.unary .many (.sepBy (.stock .comma) (.lookUp "sum" "sum")))

def sums : Store where
  targets := [some sum, some addend]
  ids := [("addend", forward 1 "addend"), ("sum", forward 0 "sum")]

attribute [local instance] CharNames.nameless

theorem sums_leftRecursive : (forward 0 "sum").LeftRecursive (sums.env true) := by
  have haddend : (forward 1 "addend").LeadsTo (sums.env true) (forward 0 "sum") :=
    .head rfl (.head rfl (.head rfl (.head rfl (.head rfl (.here _)))))
  have hsum : sum.LeadsTo (sums.env true) (forward 0 "sum") :=
    .head rfl (.head rfl (.head rfl (.copy "first" haddend)))
  exact ⟨forward 0 "sum", sum, .here _, rfl, hsum⟩

theorem left_recursion_reported_sums :
    Store.ofRules [("sum", sumExpr), ("addend", addendExpr)] = .ok sums ∧
      ((many1 (attempt (forward 0 "sum"))).invoke (sums.env true) 40 ['1', '+']).outcome =
        .error .nestingExceeded ∧
      (Runner.standard.parse (sums.env true) 40 (many1 (attempt (forward 0 "sum"))) ['1', '+']).outcome =
        .error .recursion := by
  have habove : (many1 (attempt (forward 0 "sum"))).LeadsTo (sums.env true) (forward 0 "sum") :=
    .head rfl (.head rfl (.here _))
  have hfits : ¬Runner.standard.Refuses ['1', '+'] := by
    simp [Runner.Refuses, Runner.standard, Runner.ofOptions, Runner.defaultSourceSize]
  obtain ⟨hcall, hrunner⟩ := left_recursion_reported sums_leftRecursive habove 40 ['1', '+']
  exact ⟨rfl, hcall, (hrunner Runner.standard hfits).2⟩

end Parser

end Descent
