import Descent.Proofs.Faults
import Descent.Proofs.Genuine
import Descent.Proofs.Permanence
import Descent.Proofs.Stopping
import Descent.Proofs.Termination

namespace Descent

namespace Rule

-- An item that is picked by its index is among the items.
def Indexed : Rule Parser → Prop
  | .sequence items (.nth i) => i < items.length
  | _ => True

-- No code of a caller's, and what the rule refers to is there.
def Resolved (env : Env) : Rule Parser → Prop
  | .bind _ _ | .custom _ | .sequence _ (.custom _) => False
  | .forward slot _ | .follow slot _ => (env.target? slot).isSome
  | .lookUp id => ∃ q, env.lookUp id = .ok q
  | _ => True

-- A value that is put into the grammar is a match.
def SucceedsGenuinely : Rule Parser → Prop
  | .succeed m => m.Genuine
  | _ => True

variable {env : Env} {rule : Rule Parser} {q : Parser}

theorem Indexed.copied (h : rule.Indexed) : rule.copied.Indexed := by
  cases rule <;> exact h

-- What a rule invokes stands in it, or is what it refers to.
theorem Resolved.mem_parts (h : rule.Resolved env) (hq : rule.Calls env (fun _ => True) q) :
    q ∈ rule.parts ∨ (∃ slot, env.target? slot = some q) ∨ ∃ id, env.lookUp id = .ok q := by
  cases rule with
  | sequence items reducer | choice items => exact .inl hq
  | sepBy element following => exact .inl (List.mem_pair.mpr hq)
  | bind first next => exact h.elim
  | forward slot name | follow slot name => exact .inr (.inl ⟨slot, hq⟩)
  | lookUp id => exact .inr (.inr ⟨id, hq⟩)
  | attempt p | maybe p | many p | many1 p | label name p | lexeme p =>
      exact .inl (List.mem_singleton.mpr hq)
  | _ => exact hq.elim

theorem Resolved.not_raises (h : rule.Resolved env) (hindexed : rule.Indexed) (e : Fault) :
    ¬rule.Raises env e := by
  have hown : rule.SelfContained → ¬rule.Raises env e := fun hself => hself.not_raises e
  cases rule with
  | sequence items reducer =>
      cases reducer with
      | all => exact hown trivial
      | nth i => exact hown hindexed
      | custom f => exact h.elim
  | bind first next | custom f => exact h.elim
  | forward slot name | follow slot name =>
      rintro ⟨hnone, -⟩
      exact Option.isSome_iff_ne_none.mp h hnone
  | lookUp id =>
      obtain ⟨q, hid⟩ := h
      intro he
      have herror : env.lookUp id = .error e := he
      simp [hid] at herror
  | _ => exact hown trivial

theorem Resolved.keepsToText (h : rule.Resolved env) : rule.KeepsToText := by
  cases rule with
  | custom f => exact h.elim
  | _ => trivial

theorem Resolved.yieldsMatches (h : rule.Resolved env) (hvalue : rule.SucceedsGenuinely) :
    rule.YieldsMatches := by
  cases rule with
  | succeed m => exact hvalue
  | custom f => exact h.elim
  | sequence items reducer =>
      cases reducer with
      | custom f => exact h.elim
      | _ => trivial
  | _ => trivial

end Rule

namespace Parser

-- At no depth is an item picked that is not there.
inductive WellMade : Parser → Prop
  | intro {p : Parser} : p.rule.Indexed → (∀ q ∈ p.rule.parts, WellMade q) → WellMade p

variable {p q : Parser}

theorem WellMade.indexed (h : p.WellMade) : p.rule.Indexed := by
  cases h with
  | intro hindexed _ => exact hindexed

theorem WellMade.of_mem_parts (h : p.WellMade) (hq : q ∈ p.rule.parts) : q.WellMade := by
  cases h with
  | intro _ hparts => exact hparts q hq

theorem wellMade_leaf (hindexed : p.rule.Indexed) (hparts : p.rule.parts = []) : p.WellMade :=
  .intro hindexed (by simp [hparts])

theorem wellMade_unary (hindexed : p.rule.Indexed) (hparts : p.rule.parts = [q]) (hq : q.WellMade) :
    p.WellMade :=
  .intro hindexed (by simpa [hparts] using hq)

theorem WellMade.named (h : p.WellMade) (name : Plain) : (p.named name).WellMade := by
  refine .intro h.indexed.copied fun q hq => h.of_mem_parts ?_
  rwa [← Rule.parts_copied]

theorem wellMade_symbol (literal : Text) : (symbol literal).WellMade :=
  wellMade_leaf trivial rfl

theorem wellMade_char (c : Char) : (char c).WellMade :=
  wellMade_leaf trivial rfl

theorem wellMade_pattern (use : PatternUse) (p : Pattern) : (pattern use p).WellMade :=
  wellMade_leaf trivial rfl

theorem wellMade_parens (hp : p.WellMade) : (parens p).WellMade := by
  have hparts : ∀ q ∈ [char '(', p, char ')'], q.WellMade := by simp [wellMade_char, hp]
  have hsequence : (sequence [char '(', p, char ')'] (.nth 1)).WellMade :=
    .intro (by simp [sequence, Rule.Indexed]) hparts
  exact hsequence.named _

theorem wellMade_sepBy {separator element : Parser} (hseparator : separator.WellMade)
    (helement : element.WellMade) : (sepBy separator element).WellMade := by
  have hpair : ∀ q ∈ [separator, element], q.WellMade := by simp [hseparator, helement]
  have hfollowing : (sequence [separator, element] (.nth 1)).WellMade :=
    .intro (by simp [sequence, Rule.Indexed]) hpair
  have hparts : ∀ q ∈ [element, sequence [separator, element] (.nth 1)], q.WellMade := by
    simp [helement, hfollowing]
  exact .intro trivial hparts

theorem wellMade_oneOf (literals : List Text) : (oneOf literals).WellMade := by
  have hchoice : (choice (literals.map symbol)).WellMade := by
    refine .intro trivial fun q hq => ?_
    obtain ⟨literal, -, rfl⟩ := List.mem_map.mp hq
    exact wellMade_symbol literal
  exact hchoice.named _

theorem ofStock_wellMade (which : Stock) : (ofStock which).WellMade := by
  cases which with
  | word => exact (wellMade_pattern _ _).named _
  | natural => exact (wellMade_pattern _ _).named _
  | comma => exact (wellMade_symbol _).named _
  | semi => exact (wellMade_symbol _).named _
  | whiteSpace => exact wellMade_leaf trivial rfl

theorem ofUnary_wellMade (op : Unary) (hp : p.WellMade) : (ofUnary op p).WellMade := by
  cases op with
  | parens => exact wellMade_parens hp
  | _ => exact wellMade_unary trivial rfl hp

end Parser

namespace Item

def WellMade : Item → Prop
  | .parser p => p.WellMade
  | .plain _ => True

theorem asParser_wellMade {item : Item} (h : item.WellMade) : Yields Parser.WellMade item.asParser := by
  cases item with
  | parser p => exact .ok h
  | plain v =>
      cases v with
      | text text => exact Parser.symbol?_yields Parser.wellMade_symbol (.text text)
      | _ => exact .error _

-- Items that are taken out of a value are values.
theorem elements_wellMade (item : Item) :
    Yields (fun items => ∀ i ∈ items, WellMade i) item.elements := by
  have hplain : ∀ {α : Type} (f : α → Plain) (as : List α),
      Yields (fun items => ∀ i ∈ items, WellMade i)
        (.ok (as.map fun a => .plain (f a)) : Except Fault (List Item)) := by
    intro α f as
    refine .ok fun i hi => ?_
    obtain ⟨a, -, rfl⟩ := List.mem_map.mp hi
    trivial
  cases item with
  | parser p => exact .error _
  | plain v =>
      cases v with
      | text s => exact hplain _ s.toList
      | list vs => exact hplain id vs
      | dict entries => exact hplain _ entries
      | _ => exact .error _

end Item

namespace Parser

variable {items : List Item}

theorem mapM_asParser_wellMade (h : ∀ i ∈ items, i.WellMade) :
    Yields (fun ps => ∀ p ∈ ps, WellMade p) (items.mapM (·.asParser)) :=
  .mapM fun i hi => Item.asParser_wellMade (h i hi)

-- Callers leave it to the combinators to pick items by their indices.
theorem sequence?_wellMade {reducer : Reducer} (hreducer : ∀ i, reducer ≠ .nth i)
    (h : ∀ i ∈ items, i.WellMade) : Yields WellMade (sequence? items reducer) := by
  refine (mapM_asParser_wellMade h).bind fun ps hps => (Yields.any _).bind fun _ _ => .ok (.intro ?_ hps)
  cases reducer with
  | nth i => exact absurd rfl (hreducer i)
  | _ => trivial

theorem choice?_wellMade (h : ∀ i ∈ items, i.WellMade) : Yields WellMade (choice? items) :=
  .ite (fun _ => .error _) fun _ => (mapM_asParser_wellMade h).bind fun _ hps =>
    (Yields.any _).bind fun _ _ => .ok (.intro trivial hps)

theorem label?_wellMade (name : Plain) {item : Item} (h : item.WellMade) :
    Yields WellMade (label? name item) := by
  cases name with
  | text s =>
      exact .ite (fun _ => .error _) fun _ =>
        (Item.asParser_wellMade h).map fun _ hp => wellMade_unary trivial rfl hp
  | _ => exact .error _

theorem either?_wellMade {a b : Item} (ha : a.WellMade) (hb : b.WellMade) :
    Yields Item.WellMade (either? a b) := by
  cases a with
  | parser p =>
      have hboth : ∀ i ∈ [.parser p, b], Item.WellMade i := by simp [ha, hb]
      exact (choice?_wellMade hboth).map fun _ hq => hq
  | plain v =>
      cases b with
      | parser p => exact .error _
      | plain w =>
          simp only [either?]
          cases v.union? w with
          | none => exact .error _
          | some u => exact .ok trivial

end Parser

namespace Expr

-- Callers reduce by functions of their own, if at all.
def ForCallers : Expr → Prop
  | .sequence _ (.nth _) | .sequenceOf _ (.nth _) => False
  | _ => True

def WrittenByCaller (e : Expr) : Prop :=
  ∀ n ∈ e.nodes, n.ForCallers

variable [CharNames] {lookUp : String → Except Fault Parser}

mutual

theorem build_wellMade (hids : ∀ id, Yields Parser.WellMade (lookUp id)) (e : Expr)
    (h : e.WrittenByCaller) : Yields Item.WellMade (e.build lookUp) := by
  have hmade : ∀ {x : Except Fault Parser}, Yields Parser.WellMade x →
      Yields Item.WellMade (do return .parser (← x)) := fun hx => hx.bind fun _ hp => .ok hp
  match e with
  | .plain v => exact .ok trivial
  | .stock which => exact .ok (Parser.ofStock_wellMade which)
  | .char c => exact hmade (Parser.char?_yields Parser.wellMade_char c)
  | .pattern use source flags =>
      exact hmade (Parser.pattern?_yields use (Parser.wellMade_pattern use) source flags)
  | .symbol literal => exact hmade (Parser.symbol?_yields Parser.wellMade_symbol literal)
  | .oneOf literals => exact hmade (Parser.oneOf?_yields Parser.wellMade_oneOf literals)
  | .succeed value => exact .ok (Parser.wellMade_leaf trivial rfl)
  | .ref id => exact hmade (hids id)
  | .lookUp id name => exact .ok (Parser.wellMade_leaf trivial rfl)
  | .custom function name => exact .ok (Parser.wellMade_leaf trivial rfl)
  | .sequence items reducer =>
      rw [WrittenByCaller, nodes, List.forall_mem_append, List.forall_mem_singleton] at h
      have hreducer : ∀ i, reducer ≠ .nth i := by
        rintro i rfl
        exact h.2
      exact (buildAll_wellMade hids items h.1).bind fun _ hbuilt =>
        hmade (Parser.sequence?_wellMade hreducer hbuilt)
  | .sequenceOf items reducer =>
      rw [WrittenByCaller, nodes, List.forall_mem_append, List.forall_mem_singleton] at h
      have hreducer : ∀ i, reducer ≠ .nth i := by
        rintro i rfl
        exact h.2
      exact (Yields.any _).bind fun built _ => (Item.elements_wellMade built).bind fun _ helements =>
        hmade (Parser.sequence?_wellMade hreducer helements)
  | .choice alternatives =>
      rw [WrittenByCaller, nodes, List.forall_mem_append] at h
      exact (buildAll_wellMade hids alternatives h.1).bind fun _ hbuilt =>
        hmade (Parser.choice?_wellMade hbuilt)
  | .either left right =>
      rw [WrittenByCaller, nodes, List.forall_mem_append, List.forall_mem_append] at h
      exact (build_wellMade hids left h.1.1).bind fun _ ha =>
        (build_wellMade hids right h.1.2).bind fun _ hb => Parser.either?_wellMade ha hb
  | .unary op operand =>
      rw [WrittenByCaller, nodes, List.forall_mem_append] at h
      exact (build_wellMade hids operand h.1).bind fun _ hbuilt =>
        hmade ((Item.asParser_wellMade hbuilt).bind fun _ hp => (Yields.any _).bind fun _ _ =>
          .ok (Parser.ofUnary_wellMade op hp))
  | .sepBy separator element =>
      rw [WrittenByCaller, nodes, List.forall_mem_append, List.forall_mem_append] at h
      exact (build_wellMade hids separator h.1.1).bind fun _ ha =>
        (build_wellMade hids element h.1.2).bind fun _ hb =>
          hmade ((Item.asParser_wellMade ha).bind fun _ hp => (Item.asParser_wellMade hb).bind fun _ hq =>
            (Yields.any _).bind fun _ _ => .ok (Parser.wellMade_sepBy hp hq))
  | .label name operand =>
      rw [WrittenByCaller, nodes, List.forall_mem_append] at h
      exact (build_wellMade hids operand h.1).bind fun _ hbuilt =>
        hmade (Parser.label?_wellMade name hbuilt)
  | .named name operand =>
      rw [WrittenByCaller, nodes, List.forall_mem_append] at h
      refine (build_wellMade hids operand h.1).bind fun built hbuilt => ?_
      cases built with
      | parser p => exact .ok (Parser.WellMade.named hbuilt name)
      | plain v => exact .error _
  -- What a continuation answers does not stand in the parser.
  | .bind first next =>
      rw [WrittenByCaller, nodes, List.forall_mem_append] at h
      exact (build_wellMade hids first h.1).bind fun _ hbuilt => (Yields.any _).bind fun _ _ =>
        (Item.asParser_wellMade hbuilt).bind fun _ hp => .ok (Parser.wellMade_unary trivial rfl hp)
  | .asParser operand =>
      rw [WrittenByCaller, nodes, List.forall_mem_append] at h
      exact (build_wellMade hids operand h.1).bind fun _ hbuilt => hmade (Item.asParser_wellMade hbuilt)

theorem buildAll_wellMade (hids : ∀ id, Yields Parser.WellMade (lookUp id)) (es : List Expr)
    (h : ∀ n ∈ nodesOf es, n.ForCallers) :
    Yields (fun items => ∀ i ∈ items, Item.WellMade i) (Expr.buildAll lookUp es) := by
  match es with
  | [] => exact .ok (by simp)
  | e :: es =>
      rw [nodesOf, List.forall_mem_append] at h
      exact (build_wellMade hids e h.1).bind fun _ hitem =>
        (buildAll_wellMade hids es h.2).bind fun _ hitems =>
          .ok (List.forall_mem_cons.mpr ⟨hitem, hitems⟩)

end

end Expr

namespace Store

structure WellMade (s : Store) : Prop where
  targets : ∀ slot p, s.target? slot = some p → p.WellMade
  ids : ∀ id, Yields Parser.WellMade (s.lookUp id)

variable {s : Store} {p : Parser} {e : Expr}

theorem wellMade_empty : empty.WellMade where
  targets := by
    rintro slot p ⟨⟩
  ids _ := .error _

theorem WellMade.assign (hs : s.WellMade) (id : String) (hp : p.WellMade) : (s.assign id p).WellMade where
  targets := hs.targets
  ids other := by
    rw [lookUp_assign]
    exact .ite (fun _ => .ok hp) fun _ => hs.ids other

theorem WellMade.declare (hs : s.WellMade) (id : String) (name : Plain) : (s.declare id name).WellMade where
  targets slot p hslot := hs.targets slot p (by rwa [target?_declare] at hslot)
  ids other := by
    rw [Store.declare, lookUp_assign]
    exact .ite (fun _ => .ok (Parser.wellMade_leaf trivial rfl)) fun _ => hs.ids other

theorem WellMade.fill (hs : s.WellMade) (slot : Nat) (hp : p.WellMade) : (s.fill slot p).WellMade where
  targets other q hother := by
    by_cases h : slot = other
    · subst h
      have hlt : slot < s.targets.length := by simpa [Store.fill] using lt_of_target? hother
      rw [target?_fill hlt] at hother
      cases hother
      exact hp
    · rw [target?_fill_ne p h] at hother
      exact hs.targets other q hother
  ids := hs.ids

theorem WellMade.build [CharNames] (hs : s.WellMade) (he : e.WrittenByCaller) : Yields Item.WellMade (s.build e) :=
  Expr.build_wellMade hs.ids e he

theorem WellMade.parser [CharNames] (hs : s.WellMade) (he : e.WrittenByCaller) :
    Yields Parser.WellMade (s.parser e) :=
  (hs.build he).bind fun _ hitem => Item.asParser_wellMade hitem

theorem WellMade.define (hs : s.WellMade) (forward : Parser) {item : Item} (hitem : item.WellMade) :
    Yields WellMade (s.define forward item) := by
  unfold Store.define
  split
  · split
    · exact .error _
    · exact (Item.asParser_wellMade hitem).bind fun p hp => .ok (hs.fill _ hp)
  · exact .error _

end Store

namespace Command

open Store

def expr? : Command → Option Expr
  | .define _ e | .rebind _ e | .apply e _ => some e
  | .declare _ _ | .describe _ => none

-- All expressions of a session are written by its caller.
def WrittenByCaller (cs : List Command) : Prop :=
  ∀ c ∈ cs, ∀ e ∈ c.expr?, e.WrittenByCaller

variable {s : Store}

theorem attempt_wellMade [CharNames] (limit : Nat) (hs : s.WellMade) {c : Command}
    (hc : ∀ e ∈ c.expr?, e.WrittenByCaller) :
    Yields (fun r => Store.WellMade r.1) (c.attempt limit s) := by
  cases c with
  | declare id name => exact (Yields.any _).bind fun _ _ => .ok (hs.declare id name)
  | define id e =>
      have hdefined : Yields Store.WellMade (s.defineId id e) :=
        (Yields.any _).bind fun forward _ => (hs.build (hc e rfl)).bind fun _ hitem =>
          hs.define forward hitem
      exact (hdefined.mapError _).bind fun _ ht => .ok ht
  | rebind id e =>
      have hrebound : Yields Store.WellMade (s.rebind id e) :=
        (hs.parser (hc e rfl)).bind fun p hp => .ok (hs.assign id hp)
      exact (hrebound.mapError _).bind fun _ ht => (Yields.any _).bind fun _ _ => .ok ht
  | describe id => exact (Yields.any _).bind fun _ _ => .ok hs
  | apply e a => exact (Yields.any _).bind fun _ _ => (Yields.any _).bind fun _ _ => .ok hs

theorem step_wellMade [CharNames] (limit : Nat) (hs : s.WellMade) {c : Command}
    (hc : ∀ e ∈ c.expr?, e.WrittenByCaller) : (c.step limit s).1.WellMade := by
  unfold step
  split
  · next t reply h => exact attempt_wellMade limit hs hc _ h
  · exact hs

theorem steps_wellMade [CharNames] (limit : Nat) {cs : List Command} (hs : s.WellMade) (hcs : WrittenByCaller cs) :
    (steps limit s cs).1.WellMade := by
  induction cs generalizing s with
  | nil => exact hs
  | cons c cs ih =>
      obtain ⟨hc, hrest⟩ := List.forall_mem_cons.mp hcs
      exact ih (step_wellMade limit hs hc) hrest

end Command

namespace Parser

variable {s t : Store} {env : Env} {p q : Parser} {limit : Nat} {text : Text}

-- What is reached from a well made parser is well made: it stands in one, or the store holds it.
theorem WellMade.of_reaches [CharNames] {tracing : Bool} (hp : p.WellMade) (hs : s.WellMade)
    (hall : p.Throughout (s.env tracing) (fun _ => True) (Rule.Resolved (s.env tracing)))
    (hq : p.Reaches (s.env tracing) (fun _ => True) q) : q.WellMade := by
  induction hq with
  | refl => exact hp
  | @tail q r hreach hcall ih =>
      rcases (hall q hreach).mem_parts hcall with hpart | ⟨slot, hslot⟩ | ⟨id, hid⟩
      · exact ih.of_mem_parts hpart
      · exact hs.targets slot r hslot
      · exact hs.ids id r hid

theorem invoke_stopsBy_nesting
    (hall : p.Throughout env (fun _ => True) (Rule.Resolved env))
    (hindexed : p.Throughout env (fun _ => True) Rule.Indexed) :
    (p.invoke env limit text).StopsBy (· = .nestingExceeded) := by
  induction limit generalizing p text with
  | zero => exact Run.stopsBy_lift fun e he => (Except.error.inj he).symm
  | succ limit ih =>
      have hrule : (p.rule.perform (invoke env limit) env text).StopsBy (· = .nestingExceeded) := by
        refine Rule.perform_stopsBy (fun e he => ?_) (fun q hq u => ?_) fun q hq u rest m hok => ?_
        · exact absurd he (hall.here.not_raises hindexed.here e)
        · exact ih (hall.call hq) (hindexed.call hq)
        · exact invoke_rest_suffix ((hall.call hq).mono fun _ => Rule.Resolved.keepsToText) hok
      intro e he
      rw [invoke_succ, outcome_noted] at he
      exact hrule e he

-- `s` and `t` are two points of one session. A parser that is built at `s` and holds no code of its
-- caller's is called at `t`, where all that it refers to is there. Only the nesting limit stops it, and
-- what it matches is a match if the values that were put into it are.
theorem invoke_raises_only_nesting [CharNames] {n : Nat} {before after : List Command} {e : Expr} {tracing : Bool}
    (hs : (Command.steps n .empty before).1 = s) (ht : (Command.steps n s after).1 = t)
    (hbefore : Command.WrittenByCaller before) (hafter : Command.WrittenByCaller after)
    (he : e.WrittenByCaller) (hp : s.parser e = .ok p)
    (hall : p.Throughout (t.env tracing) (fun _ => True) (Rule.Resolved (t.env tracing)))
    (limit : Nat) (text : Text) :
    ((∃ r, (p.invoke (t.env tracing) limit text).outcome = .ok r) ∨
      (p.invoke (t.env tracing) limit text).outcome = .error .nestingExceeded) ∧
    (p.Throughout (t.env tracing) (fun _ => True) Rule.SucceedsGenuinely →
      ∀ rest m, (p.invoke (t.env tracing) limit text).outcome = .ok (.ok rest m) → m.Genuine) := by
  have hfirst : s.WellMade := hs ▸ Command.steps_wellMade n Store.wellMade_empty hbefore
  have hlater : t.WellMade := ht ▸ Command.steps_wellMade n hfirst hafter
  have hmade : p.WellMade := hfirst.parser he p hp
  have hindexed : p.Throughout (t.env tracing) (fun _ => True) Rule.Indexed :=
    fun q hq => (hmade.of_reaches hlater hall hq).indexed
  constructor
  · cases hrun : (p.invoke (t.env tracing) limit text).outcome with
    | ok r => exact .inl ⟨r, rfl⟩
    | error f => exact .inr (congrArg Except.error (invoke_stopsBy_nesting hall hindexed f hrun))
  · intro hvalues rest m hok
    have hmatches : p.Throughout (t.env tracing) (fun _ => True) Rule.YieldsMatches :=
      fun q hq => (hall q hq).yieldsMatches (hvalues q hq)
    exact invoke_induction (fun _ _ r => r.Genuine) (fun _ _ _ _ _ => trivial)
      (fun _ _ _ hrule hgives => hgives.genuine hrule fun _ _ _ h => h) hmatches hok

-- Lists of numbers, of lists and of nothing. The parser is built while the placeholder has no target.
def cell : Parser :=
  choice [natural, lookUp "list" "list", succeed .empty]

def cells : Parser :=
  parens (sepBy (symbol [',']) cell)

def cellsExpr : Expr :=
  .unary .parens (.sepBy (.plain (.text ","))
    (.choice [.stock .natural, .lookUp "list" "list", .succeed .empty]))

def spacedExpr : Expr :=
  .unary .lexeme (.ref "list")

def cellsDeclared : Store :=
  .declare .empty "list" "list"

def cellsDefined : Store :=
  cellsDeclared.fill 0 cells

attribute [local instance] CharNames.nameless

theorem cells_throughout : (lexeme (forward 0 "list")).Throughout (cellsDefined.env true)
    (fun _ => True) fun rule => rule.Resolved (cellsDefined.env true) ∧ rule.SucceedsGenuinely := by
  let comma := symbol [',']
  let pair := sequence [comma, cell] (.nth 1)
  let upper := [lexeme (forward 0 "list"), forward 0 "list", cells, sepBy comma cell, pair, cell]
  let leaves := [char '(', char ')', comma, natural, succeed .empty]
  let members := lookUp "list" "list" :: (upper ++ leaves)
  have hcells : (cellsDefined.env true).target? 0 = some cells := rfl
  have hlist : (cellsDefined.env true).lookUp "list" = .ok (forward 0 "list") := rfl
  refine throughout_of_closed members (by simp [members, upper]) ?_ ?_
  · simp only [members, upper, leaves, List.cons_append, List.nil_append, List.forall_mem_cons]
    exact ⟨⟨⟨_, hlist⟩, trivial⟩, ⟨trivial, trivial⟩, ⟨rfl, trivial⟩, ⟨trivial, trivial⟩,
      ⟨trivial, trivial⟩, ⟨trivial, trivial⟩, ⟨trivial, trivial⟩, ⟨trivial, trivial⟩, ⟨trivial, trivial⟩,
      ⟨trivial, trivial⟩, ⟨trivial, trivial⟩, ⟨trivial, .empty⟩, by simp⟩
  · have hleaves : ∀ q ∈ leaves, ∀ r, ¬q.rule.Calls (cellsDefined.env true) (fun _ => True) r := by
      simp only [leaves, List.forall_mem_cons]
      exact ⟨fun _ => id, fun _ => id, fun _ => id, fun _ => id, fun _ => id, by simp⟩
    have hmem : ∀ {q}, q ∈ upper ++ leaves → q ∈ members := fun hq => List.mem_cons_of_mem _ hq
    have hupper : ∀ q ∈ upper, ∀ r, q.rule.Calls (cellsDefined.env true) (fun _ => True) r →
        r ∈ members := by
      have hparens : ∀ r ∈ [char '(', sepBy comma cell, char ')'], r ∈ members := by
        simp [members, upper, leaves]
      have hpair : ∀ r ∈ [comma, cell], r ∈ members := by simp [members, upper, leaves]
      have hcell : ∀ r ∈ [natural, lookUp "list" "list", succeed .empty], r ∈ members := by
        simp [members, leaves]
      simp only [upper, List.forall_mem_cons]
      refine ⟨?_, ?_, hparens, ?_, hpair, hcell, by simp⟩
      · rintro r ⟨⟩
        simp [members, upper]
      · rintro r ⟨⟩
        simp [members, upper]
      · rintro r (rfl | rfl) <;> simp [members, upper, pair]
    intro q hq r hr
    rcases List.mem_cons.mp hq with rfl | hq
    · obtain rfl : forward 0 "list" = r := Except.ok.inj (hlist.symm.trans hr)
      exact hmem (by simp [upper])
    · rcases List.mem_append.mp hq with hq | hq
      · exact hupper q hq r hr
      · exact absurd hr (hleaves q hq r)

theorem invoke_raises_only_nesting_cells :
    ((lexeme (forward 0 "list")).invoke (cellsDefined.env true) 15
        ['(', '1', ',', '(', ')', ')', ' ']).outcome =
        .ok (.ok [] (.seq [.leaf ['1'], .seq [.empty]])) ∧
      (Match.seq [.leaf ['1'], .seq [.empty]]).Genuine ∧
      ((lexeme (forward 0 "list")).invoke (cellsDefined.env true) 14
        ['(', '1', ',', '(', ')', ')', ' ']).outcome = .error .nestingExceeded := by
  have hs : (Command.steps 9 .empty [.declare "list" "list"]).1 = cellsDeclared := rfl
  have ht : (Command.steps 9 cellsDeclared [.define "list" cellsExpr]).1 = cellsDefined := rfl
  have hbefore : Command.WrittenByCaller [.declare "list" "list"] := by
    simp [Command.WrittenByCaller, Command.expr?]
  have hafter : Command.WrittenByCaller [.define "list" cellsExpr] := by
    simp [Command.WrittenByCaller, Command.expr?, Expr.WrittenByCaller, cellsExpr, Expr.nodes,
      Expr.nodesOf, Expr.ForCallers]
  have he : spacedExpr.WrittenByCaller := by
    simp [Expr.WrittenByCaller, spacedExpr, Expr.nodes, Expr.ForCallers]
  have hp : cellsDeclared.parser spacedExpr = .ok (lexeme (forward 0 "list")) := rfl
  have hresolved := cells_throughout.mono fun _ h => h.1
  have hvalues := cells_throughout.mono fun _ h => h.2
  have hok : ((lexeme (forward 0 "list")).invoke (cellsDefined.env true) 15
      ['(', '1', ',', '(', ')', ')', ' ']).outcome =
      .ok (.ok [] (.seq [.leaf ['1'], .seq [.empty]])) := rfl
  obtain ⟨-, hgenuine⟩ := invoke_raises_only_nesting hs ht hbefore hafter he hp hresolved 15
    ['(', '1', ',', '(', ')', ')', ' ']
  exact ⟨hok, hgenuine hvalues [] _ hok, rfl⟩

end Parser

end Descent
