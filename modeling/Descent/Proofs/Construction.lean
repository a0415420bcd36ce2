import Descent.Grammar.Build

namespace Descent

-- If something comes of the construction, it has the property.
def Yields {ε α : Type} (holds : α → Prop) (x : Except ε α) : Prop :=
  ∀ a, x = .ok a → holds a

namespace Yields

variable {ε ε' α β : Type} {holds : α → Prop} {holds' : β → Prop} {x : Except ε α}

theorem ok {a : α} (h : holds a) : Yields holds (.ok a : Except ε α) := by
  rintro b ⟨⟩
  exact h

theorem error (e : ε) : Yields holds (.error e) :=
  fun _ h => nomatch h

theorem any (x : Except ε α) : Yields (fun _ => True) x :=
  fun _ _ => trivial

theorem bind {f : α → Except ε β} (hx : Yields holds x)
    (hf : ∀ a, holds a → Yields holds' (f a)) : Yields holds' (x >>= f) := by
  cases x with
  | error e => exact .error e
  | ok a => exact hf a (hx a rfl)

theorem map {f : α → β} (hx : Yields holds x) (hf : ∀ a, holds a → holds' (f a)) :
    Yields holds' (x.map f) := by
  cases x with
  | error e => exact .error e
  | ok a => exact .ok (hf a (hx a rfl))

theorem mapError (hx : Yields holds x) (f : ε → ε') : Yields holds (x.mapError f) := by
  cases x with
  | error e => exact .error (f e)
  | ok a => exact .ok (hx a rfl)

theorem mapM {as : List α} {f : α → Except ε β} (h : ∀ a ∈ as, Yields holds' (f a)) :
    Yields (fun bs => ∀ b ∈ bs, holds' b) (as.mapM f) := by
  induction as with
  | nil => exact .ok (by simp)
  | cons a as ih =>
      obtain ⟨ha, has⟩ := List.forall_mem_cons.mp h
      rw [List.mapM_cons]
      exact ha.bind fun b hb => (ih has).bind fun bs hbs => .ok (List.forall_mem_cons.mpr ⟨hb, hbs⟩)

theorem ite {c : Prop} [Decidable c] {y : Except ε α} (hx : c → Yields holds x)
    (hy : ¬c → Yields holds y) : Yields holds (if c then x else y) := by
  by_cases h : c
  · rw [if_pos h]
    exact hx h
  · rw [if_neg h]
    exact hy h

end Yields

namespace Parser

def Composed (p : Parser) : Prop :=
  p.isForward = false

theorem isForward_of_rule {p : Parser} {slot : Nat} {name : String} (h : p.rule = .forward slot name) :
    p.isForward = true := by
  rw [isForward, h]

theorem Composed.rule_ne {p : Parser} (h : p.Composed) (slot : Nat) (name : String) :
    p.rule ≠ .forward slot name :=
  fun hrule => Bool.false_ne_true (h.symm.trans (isForward_of_rule hrule))

theorem composed_named (name : Plain) (p : Parser) : (p.named name).Composed := by
  obtain ⟨own, rule⟩ := p
  cases rule <;> rfl

-- A name that can be joined with others.
def Joinable (p : Parser) : Prop :=
  p.name.typeIfNoText = none

theorem typeIfNoText_ofRule (name : Plain) (rule : Rule Parser) :
    (ofRule name rule).name.typeIfNoText = if name.truthy then name.typeIfNoText else none := by
  by_cases h : name.truthy <;> simp [ofRule, h, Plain.typeIfNoText]

theorem joinable_ofRule {name : Plain} (h : name.truthy → name.typeIfNoText = none) (rule : Rule Parser) :
    (ofRule name rule).Joinable := by
  rw [Joinable, typeIfNoText_ofRule]
  split
  · exact h ‹_›
  · rfl

theorem joinable_choice (ps : List Parser) : (choice ps).Joinable :=
  joinable_ofRule (fun _ => rfl) _

theorem joinable_forward (slot : Nat) (name : String) : (forward slot name).Joinable := by
  have hname : (Plain.text name).truthy → (Plain.text name).typeIfNoText = none := fun _ => rfl
  exact joinable_ofRule hname (.forward slot name)

theorem joinable_ofUnary (op : Unary) (p : Parser) : (ofUnary op p).Joinable := by
  cases op with
  | parens => exact joinable_ofRule (fun _ => rfl) _
  | _ => rfl

theorem typeIfNoText_named (name : Plain) (p q : Parser) :
    (p.named name).name.typeIfNoText = (q.named name).name.typeIfNoText :=
  (typeIfNoText_ofRule name _).trans (typeIfNoText_ofRule name _).symm

theorem checkNames_eq_ok {i : Nat} {ps : List Parser} :
    checkNames i ps = .ok () ↔ ∀ p ∈ ps, p.Joinable := by
  induction ps generalizing i with
  | nil => simp [checkNames]
  | cons p ps ih =>
      rw [List.forall_mem_cons, ← ih (i := i + 1), checkNames, Joinable]
      cases p.name.typeIfNoText <;> simp

section

variable {holds : Parser → Prop}

theorem symbol?_yields (h : ∀ literal, holds (symbol literal)) (v : Plain) : Yields holds (symbol? v) := by
  cases v with
  | text s => exact .ite (fun _ => .error _) fun _ => .ok (h _)
  | _ => exact .error _

theorem char?_yields (h : ∀ c, holds (char c)) (v : Plain) : Yields holds (char? v) := by
  unfold char?
  split
  · split
    · exact .ok (h _)
    · exact .error _
  · exact .error _

theorem pattern?_yields [CharNames] (use : PatternUse) (h : ∀ p, holds (pattern use p)) (source : Plain)
    (flags : Pattern.Flags) : Yields holds (pattern? use source flags) := by
  unfold pattern?
  split
  · split
    · exact .ok (h _)
    · exact .error _
  all_goals exact .error _

theorem oneOf?_yields (h : ∀ literals, holds (oneOf literals)) (v : Plain) : Yields holds (oneOf? v) :=
  (Yields.any _).bind fun _ _ =>
    .ite (fun _ => .error _) fun _ => (Yields.any _).bind fun _ _ => .ok (h _)

theorem sequence?_yields (reducer : Reducer) (h : ∀ ps, holds (sequence ps reducer)) (items : List Item) :
    Yields holds (sequence? items reducer) :=
  (Yields.any _).bind fun _ _ => (Yields.any _).bind fun _ _ => .ok (h _)

theorem choice?_yields (h : ∀ ps, holds (choice ps)) (alternatives : List Item) :
    Yields holds (choice? alternatives) :=
  .ite (fun _ => .error _) fun _ =>
    (Yields.any _).bind fun _ _ => (Yields.any _).bind fun _ _ => .ok (h _)

theorem label?_yields (h : ∀ s p, holds (label s p)) (name : Plain) (operand : Item) :
    Yields holds (label? name operand) := by
  cases name with
  | text s => exact .ite (fun _ => .error _) fun _ => (Yields.any _).map fun p _ => h s p
  | _ => exact .error _

theorem unary?_yields (op : Unary) (h : ∀ p, holds (ofUnary op p)) (operand : Item) :
    Yields holds (unary? op operand) :=
  (Yields.any _).bind fun p _ => (Yields.any _).bind fun _ _ => .ok (h p)

theorem sepBy?_yields (h : ∀ p q, holds (sepBy p q)) (separator element : Item) :
    Yields holds (sepBy? separator element) :=
  (Yields.any _).bind fun p _ => (Yields.any _).bind fun q _ => (Yields.any _).bind fun _ _ => .ok (h p q)

end

theorem ofUnary_composed (op : Unary) (p : Parser) : (ofUnary op p).Composed := by
  cases op <;> rfl

theorem ofStock_composed (which : Stock) : (ofStock which).Composed := by
  cases which <;> rfl

end Parser

namespace Item

-- What may stand for a parser: a parser, or a text that is not empty.
def Eligible : Item → Prop
  | .parser _ => True
  | .plain (.text text) => ¬text.isEmpty
  | .plain _ => False

theorem asParser_eligible {item : Item} (h : item.Eligible) : ∃ p, item.asParser = .ok p := by
  cases item with
  | parser p => exact ⟨p, rfl⟩
  | plain v =>
      cases v with
      | text text => exact ⟨_, if_neg h⟩
      | _ => exact h.elim

theorem asParser_not_eligible {item : Item} (h : ¬item.Eligible) :
    ∃ m, item.asParser = .error (.mistake m) := by
  cases item with
  | parser p => exact absurd trivial h
  | plain v =>
      cases v with
      | text text => exact ⟨_, if_pos (Decidable.not_not.mp h)⟩
      | _ => exact ⟨_, rfl⟩

-- A placeholder is never put together; it is there only where an id means it.
def Known (lookUp : String → Except Fault Parser) : Item → Prop
  | .parser p => p.isForward = true → ∃ id, lookUp id = .ok p
  | .plain _ => True

variable {lookUp : String → Except Fault Parser}

theorem known_of_composed {p : Parser} (h : p.Composed) : (Item.parser p).Known lookUp :=
  fun hp => absurd (h.symm.trans hp) Bool.false_ne_true

theorem asParser_known {item : Item} (h : item.Known lookUp) :
    Yields (fun p => (Item.parser p).Known lookUp) item.asParser := by
  cases item with
  | parser p => exact .ok h
  | plain v =>
      cases v with
      | text text =>
          exact fun p hp => known_of_composed (Parser.symbol?_yields (fun _ => rfl) (.text text) p hp)
      | _ => exact .error _

theorem either?_known (a b : Item) : Yields (Known lookUp) (Parser.either? a b) := by
  cases a with
  | parser p => exact (Parser.choice?_yields (fun _ => rfl) _).map fun _ hq => known_of_composed hq
  | plain v =>
      cases b with
      | parser p => exact .error _
      | plain w =>
          simp only [Parser.either?]
          cases v.union? w with
          | none => exact .error _
          | some u => exact fun _ h => by cases h; trivial

theorem build_known [CharNames] (lookUp : String → Except Fault Parser) (e : Expr) :
    Yields (Known lookUp) (e.build lookUp) := by
  have hmade : ∀ {x : Except Fault Parser}, Yields Parser.Composed x →
      Yields (Known lookUp) (do return .parser (← x)) :=
    fun hx => hx.bind fun _ hp => .ok (known_of_composed hp)
  match e with
  | .plain v => exact .ok trivial
  | .stock which => exact .ok (known_of_composed (Parser.ofStock_composed which))
  | .char c => exact hmade (Parser.char?_yields (fun _ => rfl) c)
  | .pattern use source flags => exact hmade (Parser.pattern?_yields use (fun _ => rfl) source flags)
  | .symbol literal => exact hmade (Parser.symbol?_yields (fun _ => rfl) literal)
  | .sequence items reducer =>
      exact (Yields.any _).bind fun built _ => hmade (Parser.sequence?_yields reducer (fun _ => rfl) built)
  | .sequenceOf items reducer =>
      exact (Yields.any _).bind fun built _ => (Yields.any _).bind fun elements _ =>
        hmade (Parser.sequence?_yields reducer (fun _ => rfl) elements)
  | .choice alternatives =>
      exact (Yields.any _).bind fun built _ => hmade (Parser.choice?_yields (fun _ => rfl) built)
  | .either left right =>
      exact (Yields.any _).bind fun a _ => (Yields.any _).bind fun b _ => either?_known a b
  | .unary op operand =>
      exact (Yields.any _).bind fun built _ => hmade (Parser.unary?_yields op (Parser.ofUnary_composed op) built)
  | .sepBy separator element =>
      exact (Yields.any _).bind fun sep _ => (Yields.any _).bind fun elem _ =>
        hmade (Parser.sepBy?_yields (fun _ _ => rfl) sep elem)
  | .oneOf literals => exact hmade (Parser.oneOf?_yields (fun _ => rfl) literals)
  | .label name operand =>
      exact (Yields.any _).bind fun built _ => hmade (Parser.label?_yields (fun _ _ => rfl) name built)
  | .named name operand =>
      refine (Yields.any _).bind fun built _ => ?_
      cases built with
      | parser p => exact .ok (known_of_composed (Parser.composed_named name p))
      | plain v => exact .error _
  | .bind first next =>
      exact (Yields.any _).bind fun _ _ => (Yields.any _).bind fun _ _ => (Yields.any _).bind fun _ _ =>
        .ok (known_of_composed rfl)
  | .succeed value => exact .ok (known_of_composed rfl)
  | .ref id =>
      intro item h
      cases hid : lookUp id with
      | error e => rw [Expr.build, hid] at h; cases h
      | ok p => rw [Expr.build, hid] at h; cases h; exact fun _ => ⟨id, hid⟩
  | .lookUp id name => exact .ok (known_of_composed rfl)
  | .custom function name => exact .ok (known_of_composed rfl)
  | .asParser operand =>
      exact (build_known lookUp operand).bind fun _ hbuilt =>
        (asParser_known hbuilt).bind fun _ hp => .ok hp

end Item

end Descent
