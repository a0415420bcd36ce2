import Descent.Proofs.Construction
import Descent.Proofs.Reliance
import Descent.Session

namespace Descent

namespace Store

variable {s t u : Store} {p : Parser} {slot : Nat}

def fill (s : Store) (slot : Nat) (p : Parser) : Store :=
  { s with targets := s.targets.set slot (some p) }

-- A placeholder that has a target in `s` has it in `t`.
def Keeps (s t : Store) : Prop :=
  ∀ slot p, s.target? slot = some p → t.target? slot = some p

-- Ids mean placeholders of the store itself.
def Housed (s : Store) : Prop :=
  ∀ id p slot name, s.lookUp id = .ok p → p.rule = .forward slot name → slot < s.targets.length

-- What one command may make of a store.
inductive Becomes (s : Store) : Store → Prop
  | same : s.Becomes s
  | declared (id : String) (name : Plain) : s.Becomes (s.declare id name)
  | filled (slot : Nat) (p : Parser) (hfree : s.target? slot = none) : s.Becomes (s.fill slot p)
  | assigned (id : String) (p : Parser) (hknown : (Item.parser p).Known s.lookUp) :
      s.Becomes (s.assign id p)

theorem lookUp_assign (s : Store) (id other : String) (p : Parser) :
    (s.assign id p).lookUp other = if id = other then .ok p else s.lookUp other := by
  by_cases h : id = other
  · simp [lookUp, assign, h]
  -- Dropping the old entry of the id drops no entry of another one.
  · have hother : (fun entry : String × Parser => decide (entry.1 != id ∧ entry.1 == other)) =
        fun entry => entry.1 == other := by
      funext entry
      by_cases hentry : entry.1 = other <;> simp [hentry, Ne.symm h]
    have hfind : (s.assign id p).ids.find? (·.1 == other) = s.ids.find? (·.1 == other) := by
      rw [assign, List.find?_cons_of_neg (by simpa using h), List.find?_filter, hother]
    rw [if_neg h, lookUp, lookUp, hfind]

theorem lookUp_congr (h : s.ids = t.ids) : s.lookUp = t.lookUp := by
  funext id
  rw [lookUp, lookUp, h]

theorem lt_of_target? (h : s.target? slot = some p) : slot < s.targets.length := by
  refine Nat.lt_of_not_le fun hle => ?_
  simp [target?, List.getElem?_eq_none hle] at h

-- A new placeholder has no target, as a slot that nothing stands in has none.
theorem target?_declare (s : Store) (id : String) (name : Plain) (slot : Nat) :
    (s.declare id name).target? slot = s.target? slot := by
  by_cases h : slot < s.targets.length
  · simp [target?, declare, assign, List.getElem?_append_left h]
  · have hnone : s.targets[slot]? = none := List.getElem?_eq_none (by omega)
    cases hrest : slot - s.targets.length <;>
      simp [target?, declare, assign, List.getElem?_append_right (Nat.le_of_not_lt h), hnone, hrest]

-- Nothing but their ids matters to how rules are declared.
theorem declareAll_congr {rules rules' : List (String × Expr)} (h : rules.map (·.1) = rules'.map (·.1))
    (s : Store) : s.declareAll rules = s.declareAll rules' := by
  have hids : ∀ rules : List (String × Expr), s.declareAll rules =
      (rules.map (·.1)).foldl (fun s id => s.declare id id) s := fun rules => by
    rw [declareAll, List.foldl_map]
  rw [hids, hids, h]

theorem fill_of_length_le (h : s.targets.length ≤ slot) (p : Parser) : s.fill slot p = s := by
  rw [fill, List.set_eq_of_length_le h]

theorem target?_fill (h : slot < s.targets.length) : (s.fill slot p).target? slot = some p := by
  simp [target?, fill, h]

theorem target?_fill_ne (p : Parser) {other : Nat} (h : slot ≠ other) :
    (s.fill slot p).target? other = s.target? other := by
  simp [target?, fill, h]

theorem Keeps.refl (s : Store) : s.Keeps s :=
  fun _ _ h => h

theorem Keeps.trans (hst : s.Keeps t) (htu : t.Keeps u) : s.Keeps u :=
  fun slot p h => htu slot p (hst slot p h)

theorem Becomes.keeps (h : s.Becomes t) : s.Keeps t := by
  intro slot p hslot
  cases h with
  | same => exact hslot
  | declared id name => rw [target?_declare, hslot]
  -- A slot that was filled just now had no target before.
  | filled other q hfree =>
      have hne : other ≠ slot := by
        rintro rfl
        simp [hfree] at hslot
      rw [target?_fill_ne q hne, hslot]
  | assigned id q hknown => exact hslot

theorem Becomes.housed (h : s.Becomes t) (hs : s.Housed) : t.Housed := by
  intro id p slot name hid hp
  cases h with
  | same => exact hs id p slot name hid hp
  | declared own shown =>
      have hlength : (s.declare own shown).targets.length = s.targets.length + 1 := by
        simp [declare, assign]
      rw [declare, lookUp_assign] at hid
      split at hid
      · cases hid
        cases hp
        omega
      · have hlt := hs id p slot name hid hp
        omega
  | filled other q hfree =>
      have hlength : (s.fill other q).targets.length = s.targets.length := List.length_set ..
      rw [hlength]
      exact hs id p slot name hid hp
  | assigned own q hknown =>
      rw [lookUp_assign] at hid
      split at hid
      -- An id that means a placeholder now has it from another id.
      · cases hid
        obtain ⟨source, hsource⟩ := hknown (Parser.isForward_of_rule hp)
        exact hs source p slot name hsource hp
      · exact hs id p slot name hid hp

theorem define_becomes (s : Store) (forward : Parser) (item : Item) :
    Yields s.Becomes (s.define forward item) := by
  unfold define
  split
  · split
    · exact .error _
    · exact (Yields.any _).bind fun p _ => .ok (.filled _ p ‹_›)
  · exact .error _

theorem parser_known [CharNames] (s : Store) (e : Expr) :
    Yields (fun p => (Item.parser p).Known s.lookUp) (s.parser e) :=
  (Item.build_known s.lookUp e).bind fun _ hitem => Item.asParser_known hitem

end Store

namespace Command

open Store

variable [CharNames]

theorem attempt_becomes (limit : Nat) (s : Store) (c : Command) :
    Yields (fun r => s.Becomes r.1) (c.attempt limit s) := by
  cases c with
  | declare id name => exact (Yields.any _).bind fun _ _ => .ok (.declared id name)
  | define id e =>
      have hdefined : Yields s.Becomes (s.defineId id e) :=
        (Yields.any _).bind fun forward _ => (Yields.any _).bind fun item _ =>
          define_becomes s forward item
      exact (hdefined.mapError _).bind fun _ ht => .ok ht
  | rebind id e =>
      have hrebound : Yields s.Becomes (s.rebind id e) :=
        (parser_known s e).bind fun p hp => .ok (.assigned id p hp)
      exact (hrebound.mapError _).bind fun _ ht => (Yields.any _).bind fun _ _ => .ok ht
  | describe id => exact (Yields.any _).bind fun _ _ => .ok .same
  | apply e a => exact (Yields.any _).bind fun _ _ => (Yields.any _).bind fun _ _ => .ok .same

theorem step_becomes (limit : Nat) (s : Store) (c : Command) : s.Becomes (c.step limit s).1 := by
  unfold step
  split
  · next t reply h => exact attempt_becomes limit s c _ h
  · exact .same

theorem steps_keep (limit : Nat) (s : Store) (cs : List Command) :
    s.Keeps (steps limit s cs).1 := by
  induction cs generalizing s with
  | nil => exact .refl s
  | cons c cs ih => exact (step_becomes limit s c).keeps.trans (ih _)

theorem steps_housed {s : Store} (limit : Nat) (hs : s.Housed) (cs : List Command) :
    (steps limit s cs).1.Housed := by
  induction cs generalizing s with
  | nil => exact hs
  | cons c cs ih => exact ih ((step_becomes limit s c).housed hs)

end Command

-- What the rule asks for is there for good: the placeholder has its target, no id is looked up, and no
-- continuation builds an expression in which the meaning of an id matters.
def Rule.Fixed [CharNames] (env : Env) : Rule Parser → Prop
  | .forward slot _ | .follow slot _ => (env.target? slot).isSome
  | .lookUp _ => False
  | .bind _ next => ∀ m e, next m = .build e → ∀ lookUp lookUp', e.build lookUp = e.build lookUp'
  | _ => True

theorem Rule.Fixed.answeredAlike [CharNames] {s t : Store} {tracing : Bool} {rule : Rule Parser}
    (h : rule.Fixed (s.env tracing)) (hkeeps : s.Keeps t) :
    rule.AnsweredAlike (s.env tracing) (t.env tracing) := by
  have htarget : ∀ slot, ((s.env tracing).target? slot).isSome →
      (s.env tracing).target? slot = (t.env tracing).target? slot := by
    intro slot hslot
    obtain ⟨p, hp⟩ := Option.isSome_iff_exists.mp hslot
    have ht : t.target? slot = some p := hkeeps slot p hp
    exact hp.trans ht.symm
  cases rule with
  | forward slot name => exact htarget slot h
  | follow slot name => exact htarget slot h
  | lookUp id => exact h.elim
  | bind first next =>
      intro m
      cases hnext : next m with
      | parser p => rfl
      | fault f => rfl
      | build e =>
          have hbuild : s.build e = t.build e := h m e hnext s.lookUp t.lookUp
          simp only [Rule.chosen, Store.env, hbuild]
  | _ => trivial

namespace Parser

variable [CharNames]

-- Every parser below `p` is there for good as far as `s` goes.
def FixedIn (s : Store) (p : Parser) : Prop :=
  p.Throughout (s.env false) (fun _ => True) (Rule.Fixed (s.env false))

theorem invoke_fixed {s t : Store} {p : Parser} (hp : p.FixedIn s) (hkeeps : s.Keeps t)
    (tracing : Bool) (depth : Nat) : p.invoke (s.env tracing) depth = p.invoke (t.env tracing) depth := by
  have hfixed : p.Throughout (s.env tracing) (fun _ => True) (Rule.Fixed (s.env tracing)) := hp
  have htracing : (s.env tracing).tracing = (t.env tracing).tracing := rfl
  exact invoke_congr htracing (hfixed.mono fun _ hrule => hrule.answeredAlike hkeeps) depth

end Parser

namespace Application

theorem perform_fixed [CharNames] {s t : Store} {p : Parser} (hp : p.FixedIn s) (hkeeps : s.Keeps t)
    (a : Application) (depth : Nat) : a.perform s depth p = a.perform t depth p := by
  have hcall : ∀ text, Runner.call (s.env a.tracing) depth p text =
      Runner.call (t.env a.tracing) depth p text := by
    intro text
    rw [Runner.call, Runner.call, Parser.invoke_fixed hp hkeeps]
  simp only [perform, Runner.parse, Runner.run, hcall]

end Application

namespace Command

variable [CharNames] {s : Store} {id name : String} {forward p : Parser} {slot limit : Nat} {e : Expr} {item : Item}

theorem step_define (limit : Nat) (hid : s.lookUp id = .ok forward) (he : s.build e = .ok item) :
    (Command.define id e).step limit s = match s.define forward item with
      | .ok t => (t, .ok .defined)
      | .error f => (s, .error ⟨.build, .fault f, []⟩) := by
  have hdefineId : s.defineId id e = s.define forward item := by
    rw [Store.defineId, hid]
    change (s.build e >>= s.define forward) = _
    rw [he]
    rfl
  simp only [step, attempt, hdefineId]
  cases s.define forward item <;> rfl

theorem step_define_again (hid : s.lookUp id = .ok forward) (hrule : forward.rule = .forward slot name)
    (he : s.build e = .ok item) (hslot : s.target? slot = some p) :
    (Command.define id e).step limit s =
      (s, .error ⟨.build, .fault (.mistake (.forwardRedefined name)), []⟩) := by
  have hdefine : s.define forward item = .error (.mistake (.forwardRedefined name)) := by
    simp only [Store.define, hrule, hslot]
  rw [step_define limit hid he, hdefine]

theorem step_define_unfit (hid : s.lookUp id = .ok forward) (hrule : forward.rule = .forward slot name)
    (he : s.build e = .ok item) (hslot : s.target? slot = none) (hitem : ¬item.Eligible) :
    ∃ m, (Command.define id e).step limit s = (s, .error ⟨.build, .fault (.mistake m), []⟩) := by
  obtain ⟨m, hm⟩ := Item.asParser_not_eligible hitem
  have hdefine : s.define forward item = .error (.mistake m) := by
    simp only [Store.define, hrule, hslot, hm]
    rfl
  exact ⟨m, by rw [step_define limit hid he, hdefine]⟩

theorem step_define_fit (hid : s.lookUp id = .ok forward) (hrule : forward.rule = .forward slot name)
    (he : s.build e = .ok item) (hslot : s.target? slot = none) (hp : item.asParser = .ok p) :
    (Command.define id e).step limit s = (s.fill slot p, .ok .defined) := by
  have hdefine : s.define forward item = .ok (s.fill slot p) := by
    simp only [Store.define, hrule, hslot, hp]
    rfl
  rw [step_define limit hid he, hdefine]

end Command

namespace Parser

-- A copy of a placeholder follows the same slot, and is one invocation above what stands there.
theorem outcome_copy {env : Env} {forward p : Parser} {slot : Nat} {name : String} (shown : Plain)
    (hrule : forward.rule = .forward slot name) (hslot : env.target? slot = some p) (depth : Nat)
    (text : Text) :
    ((forward.named shown).invoke env (depth + 1) text).outcome = (p.invoke env depth text).outcome := by
  have hcopy : (forward.named shown).rule = .follow slot name := by
    simp only [named, ofRule, hrule, Rule.copied]
  rw [invoke_succ, outcome_noted, hcopy, Rule.perform, Rule.runTarget, hslot]

end Parser

namespace Store

theorem housed_empty : empty.Housed := by
  rintro id p slot name ⟨⟩

-- `s` and `t` are two points of one session. Between them a target stays what it is; a define is
-- refused where there is one, and refused without a trace where the item does not stand for a parser;
-- parsers that are fixed at `s` answer every application at `t` as they do at `s`; and a copy that is
-- taken of a placeholder at `s` does at `t` what the target does that it was given by then. Repetitions of
-- parsers that lengthen their text are cut off by the same bound on rounds at both points.
theorem session_stable [CharNames] {limit : Nat} {before after : List Command} {s t : Store}
    (hs : (Command.steps limit .empty before).1 = s) (ht : (Command.steps limit s after).1 = t) :
    (∀ slot p, s.target? slot = some p → t.target? slot = some p) ∧
    (∀ id forward slot name e item, s.lookUp id = .ok forward → forward.rule = .forward slot name →
      s.build e = .ok item →
      (∀ p, s.target? slot = some p → (Command.define id e).step limit s =
        (s, .error ⟨.build, .fault (.mistake (.forwardRedefined name)), []⟩)) ∧
      (s.target? slot = none → ¬item.Eligible → ∃ m, (Command.define id e).step limit s =
        (s, .error ⟨.build, .fault (.mistake m), []⟩)) ∧
      (s.target? slot = none → item.Eligible → ∃ p u, item.asParser = .ok p ∧
        (Command.define id e).step limit s = (u, .ok .defined) ∧ u.target? slot = some p)) ∧
    (∀ p : Parser, p.FixedIn s →
      (∀ tracing depth, p.invoke (t.env tracing) depth = p.invoke (s.env tracing) depth) ∧
      ∀ (a : Application) depth, a.perform t depth p = a.perform s depth p) ∧
    (∀ id forward slot name shown, s.lookUp id = .ok forward → forward.rule = .forward slot name →
      s.build (.named shown (.ref id)) = .ok (.parser (forward.named shown)) ∧
      ∀ p, t.target? slot = some p → ∀ tracing depth text,
        ((forward.named shown).invoke (t.env tracing) (depth + 1) text).outcome =
          (p.invoke (t.env tracing) depth text).outcome) := by
  have hkeeps : s.Keeps t := ht ▸ Command.steps_keep limit s after
  have hhoused : s.Housed := hs ▸ Command.steps_housed limit housed_empty before
  refine ⟨hkeeps, ?_, ?_, ?_⟩
  · intro id forward slot name e item hid hrule he
    refine ⟨fun p hslot => Command.step_define_again hid hrule he hslot,
      fun hslot hitem => Command.step_define_unfit hid hrule he hslot hitem, fun hslot hitem => ?_⟩
    obtain ⟨p, hp⟩ := Item.asParser_eligible hitem
    exact ⟨p, s.fill slot p, hp, Command.step_define_fit hid hrule he hslot hp,
      target?_fill (hhoused id forward slot name hid hrule)⟩
  · intro p hp
    exact ⟨fun tracing depth => (Parser.invoke_fixed hp hkeeps tracing depth).symm,
      fun a depth => (Application.perform_fixed hp hkeeps a depth).symm⟩
  · intro id forward slot name shown hid hrule
    have hbuilt : s.build (.named shown (.ref id)) = .ok (.parser (forward.named shown)) := by
      simp only [build, Expr.build, hid]
      rfl
    exact ⟨hbuilt, fun p hslot tracing depth text =>
      Parser.outcome_copy shown hrule hslot depth text⟩

-- A number with a comma behind it in any depth of parentheses, the comma being built on every call. The
-- placeholder is first given a number for a target, in vain; once it has one, its id comes to mean words.
def entry : Parser :=
  Parser.natural.bind fun _ => .build (.stock .comma)

def nested : Parser :=
  .choice [.parens (.forward 0 "nested"), entry]

def nestedExpr : Expr :=
  .choice [.unary .parens (.ref "nested"), .bind (.stock .natural) (.rebuilt (.stock .comma))]

def declared : Store :=
  empty.declare "nested" "nested"

def defined : Store :=
  declared.fill 0 nested

def rebound : Store :=
  defined.assign "nested" Parser.word

theorem nested_fixedIn [CharNames] : nested.FixedIn defined := by
  let parts := [Parser.char '(', .forward 0 "nested", .char ')']
  let members := [nested, .parens (.forward 0 "nested"), entry] ++ (parts ++ [.natural, .comma])
  have hchoice : ∀ q ∈ [Parser.parens (.forward 0 "nested"), entry], q ∈ members := by
    simp [members]
  have hparts : ∀ q ∈ parts, q ∈ members :=
    fun q hq => List.mem_append_right _ (List.mem_append_left _ hq)
  have hentry : ∀ q, entry.rule.Calls (defined.env false) (fun _ => True) q → q ∈ members := by
    rintro q (rfl | ⟨m, -, ⟨⟩⟩)
    · simp [members]
    · simp [members, Parser.ofStock]
  have hforward : ∀ q, (Rule.forward 0 "nested").Calls (defined.env false) (fun _ => True) q →
      q ∈ members := by
    rintro q ⟨⟩
    simp [members]
  have hbuilds : entry.rule.Fixed (defined.env false) := by
    rintro m e ⟨⟩ lookUp lookUp'
    rfl
  refine Parser.throughout_of_closed members (by simp [members]) ?_ ?_
  · simp only [members, parts, List.forall_mem_append, List.forall_mem_cons]
    exact ⟨⟨trivial, trivial, hbuilds, by simp⟩, ⟨trivial, rfl, trivial, by simp⟩, trivial, trivial,
      by simp⟩
  · have hnone : ∀ q : Parser, False → q ∈ members := fun _ => False.elim
    have hupper : ∀ q ∈ [nested, .parens (.forward 0 "nested"), entry], ∀ r,
        q.rule.Calls (defined.env false) (fun _ => True) r → r ∈ members := by
      simp only [List.forall_mem_cons]
      exact ⟨hchoice, hparts, hentry, by simp⟩
    have hlower : ∀ q ∈ parts ++ [.natural, .comma], ∀ r,
        q.rule.Calls (defined.env false) (fun _ => True) r → r ∈ members := by
      simp only [parts, List.cons_append, List.nil_append, List.forall_mem_cons]
      exact ⟨hnone, hforward, hnone, hnone, hnone, by simp⟩
    intro q hq
    rcases List.mem_append.mp hq with h | h
    · exact hupper q h
    · exact hlower q h

attribute [local instance] CharNames.nameless

theorem session_stable_nested :
    (∃ m, (Command.define "nested" (.plain (.int 3))).step 9 declared =
      (declared, .error ⟨.build, .fault (.mistake m), []⟩)) ∧
    (∃ p u, (Command.define "nested" nestedExpr).step 9 declared = (u, .ok .defined) ∧
      u.target? 0 = some p) ∧
    (Command.define "nested" (.stock .comma)).step 9 defined =
      (defined, .error ⟨.build, .fault (.mistake (.forwardRedefined "nested")), []⟩) ∧
    (((Parser.forward 0 "nested").named "copy").invoke (rebound.env false) 10
      ['(', '(', '7', ',', ')', ')']).outcome = .ok (.ok [] (.leaf [','])) ∧
    rebound.lookUp "nested" = .ok Parser.word ∧
    nested.invoke (rebound.env true) 10 = nested.invoke (defined.env true) 10 := by
  have hfirst : (Command.steps 9 .empty [.declare "nested" "nested",
      .define "nested" (.plain (.int 3))]).1 = declared := rfl
  have hsecond : (Command.steps 9 declared [.define "nested" nestedExpr,
      .rebind "nested" (.stock .word)]).1 = rebound := rfl
  have hwhole : (Command.steps 9 .empty [.declare "nested" "nested",
      .define "nested" nestedExpr]).1 = defined := rfl
  have hlast : (Command.steps 9 defined [.rebind "nested" (.stock .word)]).1 = rebound := rfl
  obtain ⟨-, hdefine, -, hcopy⟩ := session_stable hfirst hsecond
  obtain ⟨-, hagain, hfixed, -⟩ := session_stable hwhole hlast
  have hforward : declared.lookUp "nested" = .ok (Parser.forward 0 "nested") := rfl
  have hunfit : ¬(Item.plain (.int 3)).Eligible := id
  obtain ⟨m, hm⟩ := (hdefine "nested" _ 0 "nested" (.plain (.int 3)) _ hforward rfl rfl).2.1 rfl hunfit
  obtain ⟨p, u, -, hstep, htarget⟩ :=
    (hdefine "nested" _ 0 "nested" nestedExpr (.parser nested) hforward rfl rfl).2.2 rfl trivial
  have hrefused := (hagain "nested" (Parser.forward 0 "nested") 0 "nested" (.stock .comma) _ rfl rfl
    rfl).1 nested rfl
  refine ⟨⟨m, hm⟩, ⟨p, u, hstep, htarget⟩, hrefused, ?_, rfl, (hfixed nested nested_fixedIn).1 true 10⟩
  exact ((hcopy "nested" _ 0 "nested" "copy" hforward rfl).2 nested rfl false 9 _).trans rfl

end Store

end Descent
