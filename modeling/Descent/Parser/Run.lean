import Descent.Result

namespace Descent

-- One completed invocation: the parser's name, whether it matched, and the text it was given.
structure Record where
  name : String
  matched : Bool
  text : Text
deriving Repr, DecidableEq

namespace Record

def render (r : Record) : String :=
  r.name ++ (if r.matched then " matched on " else " failed on ") ++
    Text.quoted (Text.abbreviate r.text)

end Record

-- What comes of some work, with the record of every invocation that was completed on the way. A
-- fault ends the work but not what was recorded before it.
structure Run (α : Type) where
  outcome : Except Fault α
  trace : List Record

namespace Run

variable {α β : Type}

def done (a : α) : Run α := ⟨.ok a, []⟩

def stop (f : Fault) : Run α := ⟨.error f, []⟩

def lift (x : Except Fault α) : Run α := ⟨x, []⟩

def andThen (x : Run α) (f : α → Run β) : Run β :=
  match x.outcome with
  | .ok a =>
      let y := f a
      ⟨y.outcome, x.trace ++ y.trace⟩
  | .error e => ⟨.error e, x.trace⟩

instance : Monad Run where
  pure := done
  bind := andThen

theorem ext {x y : Run α} (ho : x.outcome = y.outcome) (ht : x.trace = y.trace) : x = y := by
  cases x; cases y; simp_all

instance : LawfulMonad Run :=
  LawfulMonad.mk' Run
    (by
      intro α x
      apply ext <;> cases h : x.outcome <;> simp [Functor.map, andThen, done, h])
    (by
      intro α β a f
      rfl)
    (by
      intro α β γ x f g
      cases h : x.outcome with
      | error e => simp [Bind.bind, andThen, h]
      | ok a => cases hf : (f a).outcome <;> simp [Bind.bind, andThen, h, hf])

@[simp]
theorem outcome_pure (a : α) : (pure a : Run α).outcome = .ok a := rfl

@[simp]
theorem trace_pure (a : α) : (pure a : Run α).trace = [] := rfl

@[simp]
theorem outcome_stop (f : Fault) : (stop f : Run α).outcome = .error f := rfl

@[simp]
theorem trace_stop (f : Fault) : (stop f : Run α).trace = [] := rfl

@[simp]
theorem outcome_lift (x : Except Fault α) : (lift x).outcome = x := rfl

@[simp]
theorem trace_lift (x : Except Fault α) : (lift x).trace = [] := rfl

theorem bind_of_ok {x : Run α} {a : α} (f : α → Run β) (h : x.outcome = .ok a) :
    x >>= f = ⟨(f a).outcome, x.trace ++ (f a).trace⟩ := by
  simp [Bind.bind, andThen, h]

theorem bind_of_error {x : Run α} {e : Fault} (f : α → Run β) (h : x.outcome = .error e) :
    x >>= f = ⟨.error e, x.trace⟩ := by
  simp [Bind.bind, andThen, h]

theorem outcome_bind_of_error {x : Run α} {e : Fault} (f : α → Run β) (h : x.outcome = .error e) :
    (x >>= f).outcome = .error e :=
  congrArg outcome (bind_of_error f h)

theorem outcome_bind (x : Run α) (f : α → Run β) :
    (x >>= f).outcome = x.outcome >>= fun a => (f a).outcome := by
  cases h : x.outcome with
  | ok a => rw [bind_of_ok f h]; rfl
  | error e => rw [bind_of_error f h]; rfl

theorem outcome_bind_eq_ok {x : Run α} {f : α → Run β} {b : β} :
    (x >>= f).outcome = .ok b ↔ ∃ a, x.outcome = .ok a ∧ (f a).outcome = .ok b := by
  cases h : x.outcome with
  | ok a => simp [bind_of_ok f h]
  | error e => simp [bind_of_error f h]

theorem mem_trace_bind {x : Run α} {f : α → Run β} {r : Record} :
    r ∈ (x >>= f).trace ↔ r ∈ x.trace ∨ ∃ a, x.outcome = .ok a ∧ r ∈ (f a).trace := by
  cases h : x.outcome with
  | ok a => simp [bind_of_ok f h]
  | error e => simp [bind_of_error f h]

end Run

end Descent
