import Descent.Proofs.Construction
import Descent.Proofs.Faults
import Mathlib.Data.List.Forall2

namespace Descent

-- Something good comes of the construction if nothing is wrong, and else the first fault is raised.
def Judged {α : Type} (good : α → Prop) (faults : List Fault) (x : Except Fault α) : Prop :=
  match faults with
  | [] => ∃ a, x = .ok a ∧ good a
  | f :: _ => x = .error f

namespace Judged

variable {α β : Type} {good : α → Prop} {good' : β → Prop} {fs gs : List Fault} {x : Except Fault α}

theorem ok {a : α} (h : good a) : Judged good [] (.ok a) :=
  ⟨a, rfl, h⟩

theorem mono {weaker : α → Prop} (hx : Judged good fs x) (h : ∀ a, good a → weaker a) :
    Judged weaker fs x := by
  cases fs with
  | nil =>
      obtain ⟨a, rfl, ha⟩ := hx
      exact .ok (h a ha)
  | cons e fs => exact hx

theorem bind {f : α → Except Fault β} (hx : Judged good fs x)
    (hf : ∀ a, good a → Judged good' gs (f a)) : Judged good' (fs ++ gs) (x >>= f) := by
  cases fs with
  | nil =>
      obtain ⟨a, rfl, ha⟩ := hx
      exact hf a ha
  | cons e fs =>
      obtain rfl : x = .error e := hx
      exact rfl

theorem map {f : α → β} (hx : Judged good fs x) (hf : ∀ a, good a → good' (f a)) :
    Judged good' fs (x.map f) := by
  cases fs with
  | nil =>
      obtain ⟨a, rfl, ha⟩ := hx
      exact .ok (hf a ha)
  | cons e fs =>
      obtain rfl : x = .error e := hx
      exact rfl

theorem bind_pure {f : α → β} (hx : Judged good fs x) (hf : ∀ a, good a → good' (f a)) :
    Judged good' fs (x >>= fun a => pure (f a)) :=
  hx.map hf

theorem ite {c : Prop} [Decidable c] {e : Fault} (hx : ¬c → Judged good fs x) :
    Judged good (if c then [e] else fs) (if c then .error e else x) := by
  by_cases h : c
  · rw [if_pos h, if_pos h]
    exact rfl
  · rw [if_neg h, if_neg h]
    exact hx h

-- A list of constructions, of which each has its own faults.
theorem mapM {γ : Type} {faults : γ → List Fault} {good : γ → α → Prop} {f : β → Except Fault α}
    {cs : List γ} {bs : List β}
    (h : List.Forall₂ (fun c b => Judged (good c) (faults c) (f b)) cs bs) :
    Judged (fun as => List.Forall₂ good cs as) (cs.flatMap faults) (bs.mapM f) := by
  induction h with
  | nil => exact .ok .nil
  | cons hb _ ih =>
      rw [List.mapM_cons, List.flatMap_cons]
      exact hb.bind fun _ ha => ih.bind_pure fun _ has => .cons ha has

end Judged

-- What comes of a call that puts a parser together: no placeholder, and under a name that can be joined.
def Parser.Assembled (p : Parser) : Prop :=
  p.Composed ∧ p.Joinable

namespace Expr

-- A parser that is a placeholder if the expression says so, and has a name of the type that it says.
structure Describes (lookUp : String → Except Fault Parser) (e : Expr) (p : Parser) : Prop where
  forward : p.isForward = e.isForward lookUp
  name : p.name.typeIfNoText = e.nameType? lookUp

-- What an expression is built to: plain values stay what they are, all else becomes a parser.
def Fits (lookUp : String → Except Fault Parser) : Expr → Item → Prop
  | .plain v, item => item = .plain v
  | e, item => ∃ p, item = .parser p ∧ e.Describes lookUp p

variable {lookUp : String → Except Fault Parser} {e : Expr} {es : List Expr} {item : Item}
  {items : List Item} {v : Plain}

theorem Fits.exists_parser (he : ¬e.IsPlain) (h : e.Fits lookUp item) :
    ∃ p, item = .parser p ∧ e.Describes lookUp p := by
  cases e with
  | plain v => exact absurd trivial he
  | _ => exact h

theorem describes_named (name : Plain) (operand : Expr) (p : Parser) :
    (Expr.named name operand).Describes lookUp (p.named name) where
  forward := Parser.composed_named name p
  name := Parser.typeIfNoText_ofRule name _

theorem symbol?_judged (v : Plain) :
    Judged Parser.Assembled (v.literalFaults (.mistake (.emptyLiteral "symbol"))) (Parser.symbol? v) := by
  cases v with
  | text s => exact .ite fun _ => .ok ⟨rfl, rfl⟩
  | _ => exact rfl

theorem Fits.asParser_judged (h : e.Fits lookUp item) :
    Judged (e.Describes lookUp) e.operandFaults item.asParser := by
  cases e with
  | plain v =>
      obtain rfl : item = .plain v := h
      cases v with
      | text s => exact (symbol?_judged (.text s)).mono fun _ hp => ⟨hp.1, hp.2⟩
      | _ => exact rfl
  | _ =>
      obtain ⟨p, rfl, hp⟩ := h
      exact .ok hp

theorem char?_judged (v : Plain) : Judged Parser.Assembled v.characterFaults (Parser.char? v) := by
  cases v with
  | text s =>
      have hlength : s.length = s.toList.length := String.length_toList.symm
      simp only [Plain.characterFaults, Parser.char?, hlength]
      rcases s.toList with _ | ⟨c, _ | ⟨d, rest⟩⟩
      · exact rfl
      · exact .ok ⟨rfl, rfl⟩
      · simp [Judged]
  | _ => exact rfl

theorem asParsers_judged (h : List.Forall₂ (Fits lookUp) es items) :
    Judged (fun ps => List.Forall₂ (Describes lookUp) es ps) (es.flatMap operandFaults)
      (items.mapM (·.asParser)) :=
  Judged.mapM (h.imp fun _ _ hitem => hitem.asParser_judged)

theorem checkNames_judged {ps : List Parser}
    (h : List.Forall₂ (fun e p => p.name.typeIfNoText = e.nameType? lookUp) es ps) (i : Nat) :
    Judged (fun _ => True) (nameFaults lookUp i es) (Parser.checkNames i ps) := by
  induction h generalizing i with
  | nil => exact .ok trivial
  | @cons e p es ps hname _ ih =>
      rw [nameFaults, Parser.checkNames, hname]
      cases e.nameType? lookUp with
      | some typeName => exact rfl
      | none => exact ih (i + 1)

theorem sequence?_judged (reducer : Reducer) (h : List.Forall₂ (Fits lookUp) es items) :
    Judged Parser.Assembled (es.flatMap operandFaults ++ nameFaults lookUp 0 es)
      (Parser.sequence? items reducer) :=
  (asParsers_judged h).bind fun _ hps =>
    (checkNames_judged (hps.imp fun _ _ hp => hp.name) 0).bind_pure fun _ _ => ⟨rfl, rfl⟩

theorem choice?_cons_judged {a : Expr} {b : Item} (hfirst : a.Fits lookUp b)
    (h : List.Forall₂ (Fits lookUp) es items) :
    Judged Parser.Assembled ((a :: es).flatMap operandFaults ++ nameFaults lookUp 0 (a :: es))
      (Parser.choice? (b :: items)) :=
  (asParsers_judged (.cons hfirst h)).bind fun ps hps =>
    (checkNames_judged (hps.imp fun _ _ hp => hp.name) 0).bind_pure fun _ _ =>
      ⟨rfl, Parser.joinable_choice ps⟩

theorem elements_plain (v : Plain) :
    (Item.plain v).elements = match v.items? with
      | some vs => .ok (vs.map .plain)
      | none => .error (.notIterable v.typeName) := by
  cases v <;> simp [Item.elements, Plain.items?, Item.typeName]

-- The items of a list of plain values, each with the faults that it has.
theorem plains_judged {α : Type} {f : Item → Except Fault α} {faults : Plain → List Fault}
    (h : ∀ w, Judged (fun _ => True) (faults w) (f (.plain w))) (vs : List Plain) :
    Judged (fun _ => True) (vs.flatMap faults) ((vs.map Item.plain).mapM f) := by
  have hitems : List.Forall₂ (fun w item => Judged (fun _ => True) (faults w) (f item)) vs
      (vs.map .plain) := by
    rw [List.forall₂_map_right_iff, List.forall₂_same]
    exact fun w _ => h w
  exact (Judged.mapM hitems).mono fun _ _ => trivial

theorem fits_plains (vs : List Plain) :
    List.Forall₂ (Fits lookUp) (vs.map .plain) (vs.map .plain) := by
  rw [List.forall₂_map_left_iff, List.forall₂_map_right_iff, List.forall₂_same]
  exact fun _ _ => rfl

-- What is assembled is what the expression says if that is neither a placeholder nor named by the caller.
theorem fits_of_assembled {x : Except Fault Parser} {fs : List Fault} (hplain : ¬e.IsPlain)
    (hforward : e.isForward lookUp = false) (hname : e.nameType? lookUp = none)
    (hx : Judged Parser.Assembled fs x) :
    Judged (e.Fits lookUp) fs (do return .parser (← x)) := by
  refine hx.bind_pure fun p hp => ?_
  cases e with
  | plain v => exact absurd trivial hplain
  | _ => exact ⟨p, rfl, hp.1.trans hforward.symm, hp.2.trans hname.symm⟩

section

variable [CharNames]

theorem pattern?_judged (use : PatternUse) (source : Plain) (flags : Pattern.Flags) :
    Judged Parser.Assembled (source.patternFaults flags) (Parser.pattern? use source flags) := by
  cases source with
  | text s =>
      simp only [Plain.patternFaults, Parser.pattern?]
      cases Pattern.read flags s.toList with
      | ok p => exact .ok ⟨rfl, rfl⟩
      | error e => exact rfl
  | _ => exact rfl

theorem sequenceOf_judged (reducer : Reducer) (h : e.Fits lookUp item) :
    Judged Parser.Assembled ((Expr.sequenceOf e reducer).nodeFaults lookUp)
      (item.elements >>= fun items => Parser.sequence? items reducer) := by
  rw [nodeFaults_eq_ownFaults rfl]
  cases e with
  | plain v =>
      obtain rfl : item = .plain v := h
      rw [elements_plain, ownFaults]
      cases v.items? with
      | none => exact rfl
      | some vs =>
          have hvs : List.Forall₂ (Fits lookUp) (vs.map .plain) (vs.map .plain) := fits_plains vs
          have hsequence := sequence?_judged reducer hvs
          rw [nameFaults_plains, List.append_nil, List.flatMap_map] at hsequence
          exact hsequence
  | _ =>
      obtain ⟨p, rfl, hp⟩ := h
      simp only [ownFaults, typeName, ← hp.forward]
      exact rfl

theorem choice?_judged (h : List.Forall₂ (Fits lookUp) es items) :
    Judged Parser.Assembled ((Expr.choice es).nodeFaults lookUp) (Parser.choice? items) := by
  cases h with
  | nil => exact rfl
  | cons hitem hitems => exact choice?_cons_judged hitem hitems

theorem either?_judged {left right : Expr} {a b : Item} (hplain : ¬left.IsPlain)
    (hleft : left.Fits lookUp a) (hright : right.Fits lookUp b) :
    Judged ((Expr.either left right).Fits lookUp) ((Expr.either left right).nodeFaults lookUp)
      (Parser.either? a b) := by
  have hnone : left.operandFaults = [] := by
    cases left with
    | plain v => exact absurd trivial hplain
    | _ => rfl
  obtain ⟨p, rfl, -⟩ := hleft.exists_parser hplain
  have hchoice := choice?_cons_judged hleft (.cons hright .nil)
  rw [List.flatMap_cons, hnone, List.nil_append, List.flatMap_singleton] at hchoice
  exact hchoice.map fun q hq => ⟨q, rfl, hq.1, hq.2⟩

theorem unary?_judged (op : Unary) (h : e.Fits lookUp item) :
    Judged Parser.Assembled ((Expr.unary op e).nodeFaults lookUp) (Parser.unary? op item) := by
  refine h.asParser_judged.bind fun p hp => ?_
  have hnames : List.Forall₂ (fun e p => p.name.typeIfNoText = e.nameType? lookUp)
      (Expr.unary op e).joined (Parser.joinedBy op p) := by
    cases op with
    | parens => exact .cons rfl (.cons hp.name (.cons rfl .nil))
    | _ => exact .nil
  exact (checkNames_judged hnames 0).bind_pure fun _ _ =>
    ⟨Parser.ofUnary_composed op p, Parser.joinable_ofUnary op p⟩

theorem sepBy?_judged {separator element : Expr} {a b : Item} (ha : separator.Fits lookUp a)
    (hb : element.Fits lookUp b) :
    Judged Parser.Assembled ((Expr.sepBy separator element).nodeFaults lookUp)
      (Parser.sepBy? a b) := by
  rw [nodeFaults, ownFaults, List.append_assoc]
  exact ha.asParser_judged.bind fun _ hp => hb.asParser_judged.bind fun _ hq =>
    (checkNames_judged (.cons hp.name (.cons hq.name .nil)) 0).bind_pure fun _ _ => ⟨rfl, rfl⟩

theorem oneOf?_judged (literals : Plain) :
    Judged Parser.Assembled ((Expr.oneOf literals).ownFaults lookUp) (Parser.oneOf? literals) := by
  rw [Parser.oneOf?, elements_plain, ownFaults]
  cases literals.items? with
  | none => exact rfl
  | some vs =>
      cases vs with
      | nil => exact rfl
      | cons v vs =>
          refine (plains_judged (fun w => ?_) (v :: vs)).bind_pure fun _ _ =>
            ⟨rfl, Parser.joinable_ofRule (fun _ => rfl) _⟩
          cases w with
          | text s => exact .ite fun _ => .ok trivial
          | _ => exact rfl

theorem label?_judged (name : Plain) (h : e.Fits lookUp item) :
    Judged Parser.Assembled ((Expr.label name e).ownFaults lookUp) (Parser.label? name item) := by
  cases name with
  | text s =>
      simp only [ownFaults, Plain.literalFaults, Parser.label?]
      by_cases hs : s.isEmpty
      · rw [if_pos hs, if_pos hs]
        exact rfl
      · rw [if_neg hs, if_neg hs]
        exact h.asParser_judged.map fun _ _ => ⟨rfl, rfl⟩
  | _ => exact rfl

mutual

theorem build_judged (e : Expr) (h : ∀ n ∈ e.nodes, n.Usual lookUp) :
    Judged (e.Fits lookUp) (e.faults lookUp) (e.build lookUp) := by
  match e with
  | .plain v => exact .ok rfl
  | .stock which => exact .ok ⟨_, rfl, Parser.ofStock_composed which, by cases which <;> rfl⟩
  | .succeed value => exact .ok ⟨_, rfl, rfl, rfl⟩
  | .lookUp id name => exact (h _ List.mem_cons_self).elim
  | .custom function name => exact (h _ List.mem_cons_self).elim
  | .ref id =>
      obtain ⟨p, hp⟩ := h _ List.mem_cons_self
      rw [Expr.build, hp]
      exact .ok ⟨p, rfl, by simp [isForward, hp, Except.toOption], by simp [nameType?, hp, Except.toOption]⟩
  | .char c =>
      rw [faults_leaf rfl rfl]
      exact fits_of_assembled id rfl rfl (char?_judged c)
  | .pattern use source flags =>
      rw [faults_leaf rfl rfl]
      exact fits_of_assembled id rfl rfl (pattern?_judged use source flags)
  | .symbol literal =>
      rw [faults_leaf rfl rfl]
      exact fits_of_assembled id rfl rfl (symbol?_judged literal)
  | .oneOf literals =>
      rw [faults_leaf rfl rfl]
      exact fits_of_assembled id rfl rfl (oneOf?_judged literals)
  | .sequence items reducer =>
      rw [nodes, List.forall_mem_append] at h
      rw [faults_node rfl]
      exact (buildAll_judged items h.1).bind fun built hbuilt =>
        fits_of_assembled id rfl rfl (sequence?_judged reducer hbuilt)
  | .sequenceOf items reducer =>
      rw [nodes, List.forall_mem_append] at h
      rw [faults_node rfl]
      refine (build_judged items h.1).bind fun built hbuilt => ?_
      rw [← bind_assoc]
      exact fits_of_assembled id rfl rfl (sequenceOf_judged reducer hbuilt)
  | .choice alternatives =>
      rw [nodes, List.forall_mem_append] at h
      rw [faults_node rfl]
      exact (buildAll_judged alternatives h.1).bind fun built hbuilt =>
        fits_of_assembled id rfl rfl (choice?_judged hbuilt)
  | .either left right =>
      rw [nodes, List.forall_mem_append, List.forall_mem_append] at h
      rw [faults_node rfl, List.flatMap_append, List.append_assoc]
      have hleft : ¬left.IsPlain := h.2 _ List.mem_cons_self
      exact (build_judged left h.1.1).bind fun a ha => (build_judged right h.1.2).bind fun b hb =>
        either?_judged hleft ha hb
  | .unary op operand =>
      rw [nodes, List.forall_mem_append] at h
      rw [faults_node rfl]
      exact (build_judged operand h.1).bind fun built hbuilt =>
        fits_of_assembled id rfl rfl (unary?_judged op hbuilt)
  | .sepBy separator element =>
      rw [nodes, List.forall_mem_append, List.forall_mem_append] at h
      rw [faults_node rfl, List.flatMap_append, List.append_assoc]
      exact (build_judged separator h.1.1).bind fun a ha => (build_judged element h.1.2).bind fun b hb =>
        fits_of_assembled id rfl rfl (sepBy?_judged ha hb)
  | .label name operand =>
      rw [nodes, List.forall_mem_append] at h
      rw [faults_node rfl, nodeFaults_eq_ownFaults rfl]
      exact (build_judged operand h.1).bind fun built hbuilt =>
        fits_of_assembled id rfl rfl (label?_judged name hbuilt)
  | .named name operand =>
      rw [nodes, List.forall_mem_append] at h
      rw [faults_node rfl]
      have hplain : ¬operand.IsPlain := h.2 _ List.mem_cons_self
      refine (build_judged operand h.1).bind fun built hbuilt => ?_
      obtain ⟨p, rfl, -⟩ := hbuilt.exists_parser hplain
      exact .ok ⟨_, rfl, describes_named name operand p⟩
  | .bind first next =>
      rw [nodes, List.forall_mem_append] at h
      exact (h.2 _ List.mem_cons_self).elim
  | .asParser operand =>
      rw [nodes, List.forall_mem_append] at h
      rw [faults_node rfl, nodeFaults_eq_ownFaults rfl]
      exact (build_judged operand h.1).bind fun built hbuilt =>
        hbuilt.asParser_judged.bind_pure fun p hp => ⟨p, rfl, hp.forward, hp.name⟩

theorem buildAll_judged (es : List Expr) (h : ∀ n ∈ nodesOf es, n.Usual lookUp) :
    Judged (fun items => List.Forall₂ (Fits lookUp) es items) ((nodesOf es).flatMap (nodeFaults lookUp))
      (Expr.buildAll lookUp es) := by
  match es with
  | [] => exact .ok .nil
  | e :: es =>
      rw [nodesOf, List.forall_mem_append] at h
      rw [nodesOf, List.flatMap_append]
      exact (build_judged e h.1).bind fun item hitem =>
        (buildAll_judged es h.2).bind_pure fun items hitems => .cons hitem hitems

end

-- Something comes of the construction if and only if all nodes are valid and join no names but texts. If not,
-- the first node of which that does not hold is reported by the first of its faults. For a node that is not
-- valid this is one of its own, and a mistake of grammar if the node is examined here. For a valid one it is
-- about the first name that is no text, and no mistake of grammar.
theorem build_reports (h : ∀ n ∈ e.nodes, n.Usual lookUp) :
    ((∃ item, e.build lookUp = .ok item) ↔ ∀ n ∈ e.nodes, n.Valid ∧ n.Joins lookUp) ∧
      ((¬∀ n ∈ e.nodes, n.Valid ∧ n.Joins lookUp) →
        ∃ before n after f rest, e.nodes = before ++ n :: after ∧
          (∀ m ∈ before, m.Valid ∧ m.Joins lookUp) ∧ ¬(n.Valid ∧ n.Joins lookUp) ∧
          n.nodeFaults lookUp = f :: rest ∧ e.build lookUp = .error f ∧
          (¬n.Valid → (∃ others, n.ownFaults lookUp = f :: others) ∧
            (¬n.Delegates → ∃ m, f = .mistake m ∧
              ErrorValue.ofFailure? (.fault f) = some (.ofDiagnostic .grammar m.diagnostic))) ∧
          (n.Valid → ∃ front operand back typeName, n.joined = front ++ operand :: back ∧
            (∀ m ∈ front, m.nameType? lookUp = none) ∧ operand.nameType? lookUp = some typeName ∧
            f = .nameNotText front.length typeName ∧ ErrorValue.ofFailure? (.fault f) = none)) := by
  have hjudged := build_judged e h
  cases hfaults : e.faults lookUp with
  | nil =>
      rw [hfaults] at hjudged
      obtain ⟨item, hitem, -⟩ := hjudged
      have hsound := faults_eq_nil.mp hfaults
      exact ⟨⟨fun _ => hsound, fun _ => ⟨item, hitem⟩⟩, fun hfaulty => absurd hsound hfaulty⟩
  | cons f fs =>
      rw [hfaults] at hjudged
      have herror : e.build lookUp = .error f := hjudged
      obtain ⟨before, n, after, rest, hnodes, hbefore, hn⟩ := exists_first_faulty hfaults
      have hfaulty : ¬(n.Valid ∧ n.Joins lookUp) := fun hsound => by
        simp [nodeFaults_eq_nil.mpr hsound] at hn
      have hsome : ¬∀ n ∈ e.nodes, n.Valid ∧ n.Joins lookUp := fun hall =>
        hfaulty (hall n (by simp [hnodes]))
      refine ⟨⟨fun ⟨item, hitem⟩ => ?_, fun hall => absurd hall hsome⟩, fun _ => ?_⟩
      · rw [herror] at hitem
        cases hitem
      · refine ⟨before, n, after, f, rest, hnodes, hbefore, hfaulty, hn, herror, fun hinvalid => ?_,
          unjoined_of_nodeFaults hn⟩
        obtain ⟨others, hown⟩ := ownFault_of_nodeFaults hn hinvalid
        refine ⟨⟨others, hown⟩, fun hexamined => ?_⟩
        obtain ⟨m, rfl⟩ := mistake_of_mem_ownFaults hexamined (hown ▸ List.mem_cons_self)
        exact ⟨m, rfl, rfl⟩

end

-- Three nodes have faults: a number among the items of a sequence, a choice of an empty text, and a label
-- without a name. The sequence is built first.
def flawed : Expr :=
  .label (.text "") (.choice [.sequence [.plain (.text "a"), .plain (.int 3)] .all, .plain (.text "")])

-- Ids, texts in the place of parsers, and a text in the place of a list of them.
def flawless : Expr :=
  .either (.sepBy (.plain (.text ",")) (.named "item" (.ref "item")))
    (.label (.text "Rest") (.sequenceOf (.plain (.text "ab")) .all))

-- A sequence whose item has a number for its name.
def numbered : Expr :=
  .sequence [.named (.int 5) (.char (.text "a"))] .all

attribute [local instance] CharNames.nameless

theorem build_reports_first :
    (∃ item, flawless.build (fun _ => .ok Parser.word) = .ok item) ∧
      flawed.build (fun _ => .ok Parser.word) = .error (.mistake (.notAParser "int")) ∧
      (∃ before n after f rest, flawed.nodes = before ++ n :: after ∧
        (∀ m ∈ before, m.Valid ∧ m.Joins fun _ => .ok Parser.word) ∧
        n.nodeFaults (fun _ => .ok Parser.word) = f :: rest ∧
        flawed.build (fun _ => .ok Parser.word) = .error f) ∧
      ∃ n ∈ numbered.nodes, ¬(n.Valid ∧ n.Joins fun _ => .ok Parser.word) := by
  have hflawless : ∀ n ∈ flawless.nodes, n.Usual fun _ => .ok Parser.word := by
    simp [flawless, nodes, Usual, IsPlain]
  have hsound : ∀ n ∈ flawless.nodes, n.Valid ∧ n.Joins fun _ => .ok Parser.word := by
    simp [flawless, nodes, Valid, Joins, joined, nameType?, Eligible, Plain.Literal, Plain.items?,
      Plain.typeIfNoText]
  have hflawed : ∀ n ∈ flawed.nodes, n.Usual fun _ => .ok Parser.word := by
    simp [flawed, nodes, nodesOf, Usual]
  have hfaulty : ¬∀ n ∈ flawed.nodes, n.Valid ∧ n.Joins fun _ => .ok Parser.word := by
    simp [flawed, nodes, nodesOf, Valid, Eligible, Plain.Literal]
  have hnumbered : ∀ n ∈ numbered.nodes, n.Usual fun _ => .ok Parser.word := by
    simp [numbered, nodes, nodesOf, Usual, IsPlain]
  have hunjoined : ¬∀ n ∈ numbered.nodes, n.Valid ∧ n.Joins fun _ => .ok Parser.word := by
    simp [numbered, nodes, nodesOf, Joins, joined, nameType?, Plain.truthy, Plain.typeIfNoText]
  obtain ⟨before, n, after, f, rest, hnodes, hbefore, -, hfaults, herror, -⟩ :=
    (build_reports hflawed).2 hfaulty
  obtain ⟨_, m, _, _, _, hsplit, -, hm, -⟩ := (build_reports hnumbered).2 hunjoined
  exact ⟨(build_reports hflawless).1.mpr hsound, rfl,
    ⟨before, n, after, f, rest, hnodes, hbefore, hfaults, herror⟩, m, by simp [hsplit], hm⟩

-- All its nodes are valid, and yet nothing comes of it.
theorem build_of_valid_nodes :
    (∀ n ∈ numbered.nodes, n.Usual (fun _ => .ok Parser.word) ∧ n.Valid) ∧
      numbered.build (fun _ => .ok Parser.word) = .error (.nameNotText 0 "int") ∧
      ¬((∃ item, numbered.build (fun _ => .ok Parser.word) = .ok item) ↔
        ∀ n ∈ numbered.nodes, n.Valid) := by
  have hlength : "a".length = 1 := rfl
  have hvalid : ∀ n ∈ numbered.nodes, n.Usual (fun _ => .ok Parser.word) ∧ n.Valid := by
    simp [numbered, nodes, nodesOf, Usual, IsPlain, Valid, Eligible, hlength]
  have herror : numbered.build (fun _ => .ok Parser.word) = .error (.nameNotText 0 "int") := rfl
  refine ⟨hvalid, herror, fun hclaim => ?_⟩
  obtain ⟨item, hitem⟩ := hclaim.mpr fun n hn => (hvalid n hn).2
  cases herror.symm.trans hitem

end Expr

end Descent
