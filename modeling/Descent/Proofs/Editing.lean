import Descent.Proofs.Likeness
import Descent.Proofs.Permanence

namespace Descent

theorem Agree.and_left {ε α β : Type} {related : α → β → Prop} {holds : α → Prop}
    {x : Except ε α} {y : Except ε β} (h : Agree related x y) (hx : Yields holds x) :
    Agree (fun a b => related a b ∧ holds a) x y := by
  cases h with
  | error e => exact .error e
  | ok hab => exact .ok ⟨hab, hx _ rfl⟩

-- A relation that holds where rules are of one shape and have related parts, and that no name matters to.
structure Parser.Congruent (similar : Parser → Parser → Prop) (alike : Expr → Expr → Prop) : Prop where
  closed : Parser.Closed similar alike
  inserted : ∀ p p' name, similar p p' → similar p (p'.named name)
  named : ∀ p p' name, similar p p' → similar (p.named name) (p'.named name)
  same : ∀ e, alike e e

-- Related parsers whose names can be joined, or are refused there alike.
def Parser.JoinedAlike (similar : Parser → Parser → Prop) (p p' : Parser) : Prop :=
  similar p p' ∧ p.name.typeIfNoText = p'.name.typeIfNoText

-- Related parsers, or one and the same value.
inductive Item.Related (similar : Parser → Parser → Prop) : Item → Item → Prop
  | parser {p p' : Parser} : similar p p' → Related similar (.parser p) (.parser p')
  | plain (v : Plain) : Related similar (.plain v) (.plain v)

def Item.IsParser : Item → Prop
  | .parser _ => True
  | .plain _ => False

-- A parser whose name can be joined with others. Any text stands for such a parser.
def Item.Joinable : Item → Prop
  | .parser p => p.Joinable
  | .plain _ => True

-- Items that stand for related parsers where a parser is wanted, or are refused there by the same fault.
def Item.Exchangeable (similar : Parser → Parser → Prop) (item item' : Item) : Prop :=
  Agree similar item.asParser item'.asParser

-- A relation on parsers that every combinator keeps, also in what it says of names that cannot be joined.
structure Parser.Combining (similar : Parser → Parser → Prop) (alike : Expr → Expr → Prop) : Prop where
  refl : ∀ p, similar p p
  joins : ∀ {p p' : Parser}, similar p p' → p.name.typeIfNoText = p'.name.typeIfNoText
  sequence : ∀ {ps ps' : List Parser} (reducer : Reducer), List.Forall₂ similar ps ps' →
    similar (Parser.sequence ps reducer) (Parser.sequence ps' reducer)
  choice : ∀ {ps ps' : List Parser}, List.Forall₂ similar ps ps' →
    similar (Parser.choice ps) (Parser.choice ps')
  unary : ∀ {p p' : Parser} (op : Unary), similar p p' →
    similar (Parser.ofUnary op p) (Parser.ofUnary op p')
  sepBy : ∀ {p p' q q' : Parser}, similar p p' → similar q q' →
    similar (Parser.sepBy p q) (Parser.sepBy p' q')
  label : ∀ {p p' : Parser} (name : String), similar p p' →
    similar (Parser.label name p) (Parser.label name p')
  bind : ∀ {p p' : Parser} {next next' : Match → Next Parser}, similar p p' →
    (∀ m, (next m).Like similar alike (next' m)) → similar (p.bind next) (p'.bind next')

section

variable {similar : Parser → Parser → Prop} {alike : Expr → Expr → Prop} {p p' q q' : Parser}
  {item item' other other' : Item} {items items' : List Item}

namespace Item

theorem related_refl (hrefl : ∀ p, similar p p) (item : Item) : item.Related similar item := by
  cases item with
  | parser p => exact .parser (hrefl p)
  | plain v => exact .plain v

theorem Related.asParser (hrefl : ∀ p, similar p p) (h : item.Related similar item') :
    Agree similar item.asParser item'.asParser := by
  cases h with
  | parser hp => exact .ok hp
  | plain v => exact .refl hrefl _

theorem Related.callable (h : item.Related similar item') :
    Agree similar item.callable item'.callable := by
  cases h with
  | parser hp => exact .ok hp
  | plain v => exact .error _

theorem Related.mono {similar' : Parser → Parser → Prop} (h : item.Related similar item')
    (himp : ∀ p p', similar p p' → similar' p p') : item.Related similar' item' := by
  cases h with
  | parser hp => exact .parser (himp _ _ hp)
  | plain v => exact .plain v

theorem Related.next (h : item.Related similar item') : item.next.Like similar alike item'.next := by
  cases h with
  | parser hp => exact .parser hp
  | plain v => exact .fault _

theorem Joinable.asParser (h : item.Joinable) : Yields Parser.Joinable item.asParser := by
  cases item with
  | parser p => exact .ok h
  | plain v =>
      cases v with
      | text s => exact Parser.symbol?_yields (fun _ => rfl) (.text s)
      | _ => exact .error _

theorem either?_joinable (a b : Item) : Yields Item.Joinable (Parser.either? a b) := by
  cases a with
  | parser p => exact (Parser.choice?_yields Parser.joinable_choice _).map fun _ hq => hq
  | plain v =>
      cases b with
      | parser p => exact .error _
      | plain w =>
          simp only [Parser.either?]
          cases v.union? w with
          | none => exact .error _
          | some u => exact .ok trivial

theorem exchangeableAll (hrefl : ∀ p, similar p p) (h : List.Forall₂ (Item.Related similar) items items') :
    List.Forall₂ (Item.Exchangeable similar) items items' :=
  h.imp fun _ _ hitem => hitem.asParser hrefl

end Item

namespace Parser.Combining

variable (hsimilar : Parser.Combining similar alike)

include hsimilar

theorem checkNames_eq {ps ps' : List Parser} (h : List.Forall₂ similar ps ps') (i : Nat) :
    checkNames i ps = checkNames i ps' := by
  induction h generalizing i with
  | nil => rfl
  | cons hp _ ih => rw [checkNames, checkNames, hsimilar.joins hp, ih]

theorem checked_agree {ps ps' : List Parser} (h : List.Forall₂ similar ps ps') (hmade : similar p p') :
    Agree similar (do checkNames 0 ps; return p) (do checkNames 0 ps'; return p') := by
  rw [hsimilar.checkNames_eq h]
  exact (Agree.refl (fun _ => rfl) (checkNames 0 ps')).bind fun _ _ _ => .ok hmade

theorem sequence?_agree (reducer : Reducer) (h : List.Forall₂ (Item.Exchangeable similar) items items') :
    Agree similar (sequence? items reducer) (sequence? items' reducer) :=
  (Agree.mapM h fun _ _ hitem => hitem).bind fun _ _ hps =>
    hsimilar.checked_agree hps (hsimilar.sequence reducer hps)

theorem choice?_agree (h : List.Forall₂ (Item.Exchangeable similar) items items') :
    Agree similar (choice? items) (choice? items') := by
  cases h with
  | nil => exact .error _
  | cons hitem hitems =>
      exact (Agree.mapM (.cons hitem hitems) fun _ _ hi => hi).bind fun _ _ hps =>
        hsimilar.checked_agree hps (hsimilar.choice hps)

theorem unary?_agree (op : Unary) (h : item.Exchangeable similar item') :
    Agree similar (unary? op item) (unary? op item') := by
  refine h.bind fun p p' hp => ?_
  have hjoined : List.Forall₂ similar (joinedBy op p) (joinedBy op p') := by
    cases op with
    | parens => exact .cons (hsimilar.refl _) (.cons hp (.cons (hsimilar.refl _) .nil))
    | _ => exact .nil
  exact hsimilar.checked_agree hjoined (hsimilar.unary op hp)

theorem sepBy?_agree (h : item.Exchangeable similar item') (h' : other.Exchangeable similar other') :
    Agree similar (sepBy? item other) (sepBy? item' other') :=
  h.bind fun _ _ hp => h'.bind fun _ _ hq =>
    hsimilar.checked_agree (.cons hp (.cons hq .nil)) (hsimilar.sepBy hp hq)

theorem label?_agree (name : Plain) (h : item.Exchangeable similar item') :
    Agree similar (label? name item) (label? name item') := by
  cases name with
  | text s =>
      simp only [label?]
      split
      · exact .error _
      · exact h.map fun _ _ hp => hsimilar.label s hp
  | _ => exact .error _

theorem either?_agree (hp : similar p p') (h : item.Exchangeable similar item') :
    Agree (Item.Related similar) (either? (.parser p) item) (either? (.parser p') item') := by
  have hleft : (Item.parser p).Exchangeable similar (.parser p') := .ok hp
  exact (hsimilar.choice?_agree (.cons hleft (.cons h .nil))).map fun _ _ hq => .parser hq

theorem pairing_like (h : item.Exchangeable similar item') (m : Match) :
    (Next.pairing item m).Like similar alike (Next.pairing item' m) := by
  unfold Next.pairing
  unfold Item.Exchangeable at h
  generalize item.asParser = x, item'.asParser = y at h
  cases h with
  | error f => exact .fault f
  | ok hp => exact .parser (hsimilar.bind hp fun n => .parser (hsimilar.refl _))

end Parser.Combining

namespace Parser.Congruent

variable (hsimilar : Parser.Congruent similar alike)

include hsimilar

theorem refl (p : Parser) : similar p p :=
  hsimilar.closed.refl hsimilar.same p

theorem ofUnary (op : Unary) (h : similar p p') :
    similar (Parser.ofUnary op p) (Parser.ofUnary op p') := by
  cases op with
  | attempt => exact hsimilar.closed _ _ (.attempt h)
  | maybe => exact hsimilar.closed _ _ (.maybe h)
  | many => exact hsimilar.closed _ _ (.many h)
  | many1 => exact hsimilar.closed _ _ (.many1 h)
  | lexeme => exact hsimilar.closed _ _ (.lexeme h)
  | parens =>
      have hparts : List.Forall₂ similar [char '(', p, char ')'] [char '(', p', char ')'] :=
        .cons (hsimilar.refl _) (.cons h (.cons (hsimilar.refl _) .nil))
      exact hsimilar.closed _ _ (.sequence (.nth 1) hparts)

-- The names of built parsers are texts on both sides.
theorem combining : Parser.Combining (JoinedAlike similar) alike where
  refl p := ⟨hsimilar.refl p, rfl⟩
  joins h := h.2
  sequence reducer hps := ⟨hsimilar.closed _ _ (.sequence reducer (hps.imp fun _ _ h => h.1)), rfl⟩
  choice hps := ⟨hsimilar.closed _ _ (.choice (hps.imp fun _ _ h => h.1)),
    (joinable_choice _).trans (joinable_choice _).symm⟩
  unary op hp := ⟨hsimilar.ofUnary op hp.1, (joinable_ofUnary op _).trans (joinable_ofUnary op _).symm⟩
  sepBy hp hq :=
    have hpair := hsimilar.closed _ _ (.sequence (.nth 1) (.cons hp.1 (.cons hq.1 .nil)))
    ⟨hsimilar.closed _ _ (.sepBy hq.1 hpair), rfl⟩
  label name hp := ⟨hsimilar.closed _ _ (.label name hp.1), rfl⟩
  bind hp hnext :=
    ⟨hsimilar.closed _ _ (.bind hp.1 fun m => (hnext m).mono fun _ _ h => h.1), rfl⟩

end Parser.Congruent

end

-- What a plain value is made of comes to a plain value.
def Expr.IsValue : Expr → Prop
  | .plain _ => True
  | .either left _ => left.IsValue
  | _ => False

-- What comes of the expression has a name that can be joined with others, if the ids it refers to mean such.
def Expr.Joinable : Expr → Prop
  | .named name _ | .lookUp _ name | .custom _ name => name.truthy → name.typeIfNoText = none
  | .asParser e => e.Joinable
  | _ => True

mutual

-- The second expression is the first one with parts replaced, and names put onto some of its parsers.
inductive Expr.Edited (replaced alike : Expr → Expr → Prop) : Expr → Expr → Prop
  | same (e : Expr) : Expr.Edited replaced alike e e
  | replaced {e e' : Expr} : replaced e e' → Expr.Edited replaced alike e e'
  | inserted {e e' : Expr} (name : Plain) :
      ¬e.IsValue → e.Joinable → (Expr.named name e').Joinable → Expr.Edited replaced alike e e' →
        Expr.Edited replaced alike e (.named name e')
  | sequence {items items' : List Expr} (reducer : Reducer) :
      List.Forall₂ (Expr.Edited replaced alike) items items' →
        Expr.Edited replaced alike (.sequence items reducer) (.sequence items' reducer)
  | choice {es es' : List Expr} :
      List.Forall₂ (Expr.Edited replaced alike) es es' →
        Expr.Edited replaced alike (.choice es) (.choice es')
  | either {left left' right right' : Expr} :
      ¬left.IsValue → Expr.Edited replaced alike left left' → Expr.Edited replaced alike right right' →
        Expr.Edited replaced alike (.either left right) (.either left' right')
  | unary {e e' : Expr} (op : Unary) :
      Expr.Edited replaced alike e e' → Expr.Edited replaced alike (.unary op e) (.unary op e')
  | sepBy {separator separator' element element' : Expr} :
      Expr.Edited replaced alike separator separator' → Expr.Edited replaced alike element element' →
        Expr.Edited replaced alike (.sepBy separator element) (.sepBy separator' element')
  | label {e e' : Expr} (name : Plain) :
      Expr.Edited replaced alike e e' → Expr.Edited replaced alike (.label name e) (.label name e')
  | named {e e' : Expr} (name : Plain) :
      Expr.Edited replaced alike e e' → Expr.Edited replaced alike (.named name e) (.named name e')
  | bind {first first' : Expr} {next next' : Continuation} :
      Expr.Edited replaced alike first first' → Continuation.Edited replaced alike next next' →
        Expr.Edited replaced alike (.bind first next) (.bind first' next')
  | asParser {e e' : Expr} :
      Expr.Edited replaced alike e e' → Expr.Edited replaced alike (.asParser e) (.asParser e')

-- What a continuation builds on call has its own relation, as it is built elsewhere.
inductive Continuation.Edited (replaced alike : Expr → Expr → Prop) : Continuation → Continuation → Prop
  | same (next : Continuation) : Continuation.Edited replaced alike next next
  | constant {e e' : Expr} :
      Expr.Edited replaced alike e e' → Continuation.Edited replaced alike (.constant e) (.constant e')
  | rebuilt {e e' : Expr} :
      alike e e' → Continuation.Edited replaced alike (.rebuilt e) (.rebuilt e')
  | paired {e e' : Expr} :
      Expr.Edited replaced alike e e' → Continuation.Edited replaced alike (.paired e) (.paired e')
  | onText {e e' : Expr} {next next' : Continuation} (text : Text) :
      Expr.Edited replaced alike e e' → Continuation.Edited replaced alike next next' →
        Continuation.Edited replaced alike (.onText text e next) (.onText text e' next')

end

namespace Expr

theorem made_agree {similar : Parser → Parser → Prop} {x y : Except Fault Parser}
    (h : Agree similar x y) :
    Agree (Item.Related similar) (do return .parser (← x)) (do return .parser (← y)) :=
  h.bind fun _ _ hp => .ok (.parser hp)

variable [CharNames] {lookUp : String → Except Fault Parser}

-- All but values are parsers once they are built.
theorem build_isParser (e : Expr) (h : ¬e.IsValue) : Yields Item.IsParser (e.build lookUp) := by
  have hmade : ∀ x : Except Fault Parser, Yields Item.IsParser (do return .parser (← x)) :=
    fun x => (Yields.any x).bind fun p _ => .ok trivial
  match e with
  | .plain v => exact absurd trivial h
  | .stock which => exact .ok trivial
  | .char c => exact hmade _
  | .pattern use source flags => exact hmade _
  | .symbol literal => exact hmade _
  | .sequence items reducer => exact (Yields.any _).bind fun _ _ => hmade _
  | .sequenceOf items reducer =>
      exact (Yields.any _).bind fun _ _ => (Yields.any _).bind fun _ _ => hmade _
  | .choice alternatives => exact (Yields.any _).bind fun _ _ => hmade _
  | .either left right =>
      refine (build_isParser left h).bind fun a ha => (Yields.any _).bind fun b _ => ?_
      cases a with
      | parser p => exact (Yields.any _).map fun _ _ => trivial
      | plain v => exact ha.elim
  | .unary op operand => exact (Yields.any _).bind fun _ _ => hmade _
  | .sepBy separator element =>
      exact (Yields.any _).bind fun _ _ => (Yields.any _).bind fun _ _ => hmade _
  | .oneOf literals => exact hmade _
  | .label name operand => exact (Yields.any _).bind fun _ _ => hmade _
  | .named name operand =>
      refine (Yields.any _).bind fun item _ => ?_
      cases item with
      | parser p => exact .ok trivial
      | plain v => exact .error _
  | .bind first next =>
      exact (Yields.any _).bind fun _ _ => (Yields.any _).bind fun _ _ => (Yields.any _).bind fun _ _ =>
        .ok trivial
  | .succeed value => exact .ok trivial
  | .ref id => exact hmade _
  | .lookUp id name => exact .ok trivial
  | .custom function name => exact .ok trivial
  | .asParser operand => exact (Yields.any _).bind fun _ _ => hmade _

theorem build_joinable (hids : ∀ id p, lookUp id = .ok p → p.Joinable) (e : Expr) (h : e.Joinable) :
    Yields Item.Joinable (e.build lookUp) := by
  have hmade : ∀ {x : Except Fault Parser}, Yields Parser.Joinable x →
      Yields Item.Joinable (do return .parser (← x)) :=
    fun hx => hx.bind fun _ hp => .ok hp
  match e with
  | .plain v => exact .ok trivial
  | .stock which => exact .ok (by cases which <;> rfl)
  | .char c => exact hmade (Parser.char?_yields (fun _ => rfl) c)
  | .pattern use source flags => exact hmade (Parser.pattern?_yields use (fun _ => rfl) source flags)
  | .symbol literal => exact hmade (Parser.symbol?_yields (fun _ => rfl) literal)
  | .sequence items reducer =>
      exact (Yields.any _).bind fun _ _ => hmade (Parser.sequence?_yields reducer (fun _ => rfl) _)
  | .sequenceOf items reducer =>
      exact (Yields.any _).bind fun _ _ => (Yields.any _).bind fun _ _ =>
        hmade (Parser.sequence?_yields reducer (fun _ => rfl) _)
  | .choice alternatives =>
      exact (Yields.any _).bind fun _ _ => hmade (Parser.choice?_yields Parser.joinable_choice _)
  | .either left right =>
      exact (Yields.any _).bind fun a _ => (Yields.any _).bind fun b _ => Item.either?_joinable a b
  | .unary op operand =>
      exact (Yields.any _).bind fun _ _ =>
        hmade (Parser.unary?_yields op (Parser.joinable_ofUnary op) _)
  | .sepBy separator element =>
      exact (Yields.any _).bind fun _ _ => (Yields.any _).bind fun _ _ =>
        hmade (Parser.sepBy?_yields (fun _ _ => rfl) _ _)
  | .oneOf literals =>
      exact hmade (Parser.oneOf?_yields (fun _ => Parser.joinable_ofRule (fun _ => rfl) _) literals)
  | .label name operand =>
      exact (Yields.any _).bind fun _ _ => hmade (Parser.label?_yields (fun _ _ => rfl) name _)
  | .named name operand =>
      refine (Yields.any _).bind fun item _ => ?_
      cases item with
      | parser p => exact .ok (Parser.joinable_ofRule h _)
      | plain v => exact .error _
  | .bind first next =>
      exact (Yields.any _).bind fun _ _ => (Yields.any _).bind fun _ _ => (Yields.any _).bind fun _ _ =>
        .ok rfl
  | .succeed value => exact .ok rfl
  | .ref id => exact hmade (hids id)
  | .lookUp id name => exact .ok (Parser.joinable_ofRule h _)
  | .custom function name => exact .ok (Parser.joinable_ofRule h _)
  | .asParser operand =>
      exact (build_joinable hids operand h).bind fun _ hitem => hmade hitem.asParser

theorem parser_joinable (hids : ∀ id p, lookUp id = .ok p → p.Joinable) {e : Expr} (h : e.Joinable) :
    Yields Parser.Joinable (e.parser lookUp) :=
  (build_joinable hids e h).bind fun _ hitem => hitem.asParser

variable {similar : Parser → Parser → Prop} {replaced alike : Expr → Expr → Prop}

-- What is put in comes to something related to what stood there, and can be joined where that can be.
structure Replaceable (lookUp : String → Except Fault Parser) (similar : Parser → Parser → Prop)
    (replaced alike : Expr → Expr → Prop) : Prop extends Parser.Congruent similar alike where
  ids : ∀ id p, lookUp id = .ok p → p.Joinable
  parts : ∀ e e', replaced e e' →
    Agree (Item.Related (Parser.JoinedAlike similar)) (e.build lookUp) (e'.build lookUp)

mutual

theorem Replaceable.build_agree (hedit : Replaceable lookUp similar replaced alike) {e : Expr}
    (e' : Expr) (h : e.Edited replaced alike e') :
    Agree (Item.Related (Parser.JoinedAlike similar)) (e.build lookUp) (e'.build lookUp) := by
  match e', h with
  | _, .same e => exact .refl (Item.related_refl hedit.combining.refl) _
  | _, .replaced h => exact hedit.parts _ _ h
  | .named _ e', .inserted name hvalue hjoins hname h =>
      rw [← bind_pure (e.build lookUp)]
      have hbuilt := (hedit.build_agree e' h).and_left (build_isParser e hvalue)
      refine (hbuilt.and_left (build_joinable hedit.ids e hjoins)).bind fun _ _ hitem => ?_
      obtain ⟨⟨hlike, hparser⟩, hjoinable⟩ := hitem
      cases hlike with
      | @parser p p' hp =>
          have hnamed : (p'.named name).Joinable := Parser.joinable_ofRule hname _
          exact .ok (.parser ⟨hedit.inserted p p' name hp.1, hjoinable.trans hnamed.symm⟩)
      | plain v => exact hparser.elim
  | .sequence items' reducer, .sequence _ hitems =>
      exact (hedit.buildAll_agree items' hitems).bind fun _ _ hbuilt =>
        made_agree (hedit.combining.sequence?_agree reducer (Item.exchangeableAll hedit.combining.refl hbuilt))
  | .choice es', .choice hes =>
      exact (hedit.buildAll_agree es' hes).bind fun _ _ hbuilt =>
        made_agree (hedit.combining.choice?_agree (Item.exchangeableAll hedit.combining.refl hbuilt))
  | .either left' right', .either hvalue hleft hright =>
      have hparser := (hedit.build_agree left' hleft).and_left (build_isParser _ hvalue)
      refine hparser.bind fun _ _ ha => (hedit.build_agree right' hright).bind fun _ _ hb => ?_
      obtain ⟨hlike, hleft⟩ := ha
      cases hlike with
      | parser hp => exact hedit.combining.either?_agree hp (hb.asParser hedit.combining.refl)
      | plain v => exact hleft.elim
  | .unary op e', .unary _ h =>
      exact (hedit.build_agree e' h).bind fun _ _ hitem =>
        made_agree (hedit.combining.unary?_agree op (hitem.asParser hedit.combining.refl))
  | .sepBy separator' element', .sepBy hseparator helement =>
      exact (hedit.build_agree separator' hseparator).bind fun _ _ ha =>
        (hedit.build_agree element' helement).bind fun _ _ hb =>
          made_agree (hedit.combining.sepBy?_agree (ha.asParser hedit.combining.refl)
            (hb.asParser hedit.combining.refl))
  | .label name e', .label _ h =>
      exact (hedit.build_agree e' h).bind fun _ _ hitem =>
        made_agree (hedit.combining.label?_agree name (hitem.asParser hedit.combining.refl))
  | .named name e', .named _ h =>
      refine (hedit.build_agree e' h).bind fun _ _ hitem => ?_
      cases hitem with
      | parser hp => exact .ok (.parser ⟨hedit.named _ _ name hp.1, Parser.typeIfNoText_named name _ _⟩)
      | plain v => exact .error _
  | .bind first' next', .bind hfirst hnext =>
      exact (hedit.build_agree first' hfirst).bind fun _ _ hitem =>
        (hedit.continuation_agree next' hnext).bind fun _ _ hk =>
          (hitem.asParser hedit.combining.refl).bind fun _ _ hp =>
            .ok (.parser (hedit.combining.bind hp hk))
  | .asParser e', .asParser h =>
      exact (hedit.build_agree e' h).bind fun _ _ hitem =>
        made_agree (hitem.asParser hedit.combining.refl)

theorem Replaceable.buildAll_agree (hedit : Replaceable lookUp similar replaced alike) {es : List Expr}
    (es' : List Expr) (h : List.Forall₂ (Expr.Edited replaced alike) es es') :
    Agree (List.Forall₂ (Item.Related (Parser.JoinedAlike similar))) (Expr.buildAll lookUp es)
      (Expr.buildAll lookUp es') := by
  match es', h with
  | [], .nil => exact .ok .nil
  | e' :: es', .cons he hes =>
      exact (hedit.build_agree e' he).bind fun _ _ hitem =>
        (hedit.buildAll_agree es' hes).bind fun _ _ hitems => .ok (.cons hitem hitems)

theorem Replaceable.continuation_agree (hedit : Replaceable lookUp similar replaced alike)
    {k : Continuation} (k' : Continuation) (h : k.Edited replaced alike k') :
    Agree (fun next next' => ∀ m, (next m).Like (Parser.JoinedAlike similar) alike (next' m))
      (k.build lookUp) (k'.build lookUp) := by
  match k', h with
  | _, .same k => exact .refl (fun next m => Next.Like.refl hedit.combining.refl hedit.same (next m)) _
  | .constant e', .constant h =>
      exact (hedit.build_agree e' h).bind fun _ _ hitem => .ok fun _ => hitem.next
  | .rebuilt e', .rebuilt h => exact .ok fun _ => .build h
  | .paired e', .paired h =>
      exact (hedit.build_agree e' h).bind fun _ _ hitem =>
        .ok (hedit.combining.pairing_like (hitem.asParser hedit.combining.refl))
  | .onText text e' k', .onText _ h hk =>
      refine (hedit.build_agree e' h).bind fun _ _ hitem =>
        (hedit.continuation_agree k' hk).bind fun _ _ hnext => .ok fun m => ?_
      split
      · exact hitem.next
      · exact hnext m

end

end Expr

theorem eq_none_iff_of_rel {α β : Type} {related : α → β → Prop} {x : Option α} {y : Option β}
    (h : Option.Rel related x y) : x = none ↔ y = none := by
  cases h <;> simp

namespace Store

-- What the ids mean are parsers whose names can be joined.
def Joins (s : Store) : Prop :=
  ∀ id p, s.lookUp id = .ok p → p.Joinable

theorem Joins.declare {s : Store} (hs : s.Joins) (id name : String) : (s.declare id name).Joins := by
  intro other p hother
  rw [Store.declare, lookUp_assign] at hother
  split at hother
  · obtain rfl := Except.ok.inj hother
    exact Parser.joinable_forward _ name
  · exact hs other p hother

-- A rule's placeholder is named by the rule's id.
theorem Joins.declareAll {s : Store} (hs : s.Joins) (rules : List (String × Expr)) :
    (s.declareAll rules).Joins := by
  induction rules generalizing s with
  | nil => exact hs
  | cons r rules ih => exact ih (hs.declare r.1 r.1)

theorem joins_declareAll (rules : List (String × Expr)) : (empty.declareAll rules).Joins := by
  have hempty : empty.Joins := fun id p h => nomatch h
  exact hempty.declareAll rules

section

variable {similar : Parser → Parser → Prop} {s s' : Store} {p p' : Parser}

-- Placeholders whose targets are related keep to that when one of them is given related targets.
theorem target?_fill_rel (hslots : s.targets.length = s'.targets.length)
    (htargets : ∀ slot, Option.Rel similar (s.target? slot) (s'.target? slot)) (slot : Nat)
    (hp : similar p p') (other : Nat) :
    Option.Rel similar ((s.fill slot p).target? other) ((s'.fill slot p').target? other) := by
  by_cases hother : slot = other
  · subst hother
    by_cases hlt : slot < s.targets.length
    · rw [target?_fill hlt, target?_fill (hslots ▸ hlt)]
      exact .some hp
    · have hle : s.targets.length ≤ slot := Nat.le_of_not_lt hlt
      rw [fill_of_length_le hle, fill_of_length_le (hslots ▸ hle)]
      exact htargets slot
  · rw [target?_fill_ne p hother, target?_fill_ne p' hother]
    exact htargets other

end

section

variable {related : Expr → Expr → Prop} {kept : Store → Store → Prop} {s s' : Store}
  {rules rules' : List (String × Expr)}
  (hrules : List.Forall₂ (fun r r' => r.1 = r'.1 ∧ related r.2 r'.2) rules rules')

include hrules

theorem ids_eq_of_related : rules.map (·.1) = rules'.map (·.1) := by
  induction hrules with
  | nil => rfl
  | cons hr _ ih => rw [List.map_cons, List.map_cons, hr.1, ih]

variable [CharNames] (hdefine : ∀ s s' id e e', kept s s' → related e e' →
  Agree kept (s.defineId id e) (s'.defineId id e'))

include hdefine

theorem defineAll_related (hs : kept s s') : Agree kept (s.defineAll rules) (s'.defineAll rules') := by
  induction hrules generalizing s s' with
  | nil => exact .ok hs
  | @cons r r' rules rules' hr _ ih =>
      rw [defineAll, defineAll, List.foldlM_cons, List.foldlM_cons, ← hr.1]
      exact (hdefine s s' r.1 r.2 r'.2 hs hr.2).bind fun _ _ hnext => ih hnext

-- Grammars whose rules are related one by one give related stores, if every single definition does.
theorem ofRules_related (hstart : kept (empty.declareAll rules) (empty.declareAll rules)) :
    Agree kept (ofRules rules) (ofRules rules') := by
  rw [ofRules, ofRules, ← declareAll_congr (ids_eq_of_related hrules)]
  exact defineAll_related hrules hdefine hstart

end

section

variable {similar : Parser → Parser → Prop} {kept : Store → Store → Prop} {s s' : Store}
  (hfree : ∀ slot, s.target? slot = none ↔ s'.target? slot = none)

include hfree

theorem define_agree (forward : Parser) {item item' : Item} (hitem : item.Exchangeable similar item')
    (hfill : ∀ slot name p p', forward.rule = .forward slot name → s'.target? slot = none →
      item'.asParser = .ok p' → similar p p' → kept (s.fill slot p) (s'.fill slot p')) :
    Agree kept (s.define forward item) (s'.define forward item') := by
  unfold Item.Exchangeable at hitem
  unfold define
  split
  · next slot name hrule =>
      cases hslot : s'.target? slot with
      | some q =>
          obtain ⟨p, hp⟩ := Option.ne_none_iff_exists'.mp (mt (hfree slot).mp (by simp [hslot]))
          rw [hp]
          exact .error _
      | none =>
          rw [(hfree slot).mpr hslot]
          generalize item.asParser = x, hparser : item'.asParser = y at hitem
          cases hitem with
          | error f => exact .error f
          | ok hp => exact .ok (hfill slot name _ _ hrule hslot hparser hp)
  · exact .error _

-- A rule is defined in two stores alike if they agree on which placeholders wait for a target. What is
-- kept by that is left open.
theorem defineId_agree [CharNames] (hrefl : ∀ p, similar p p) {id : String} {e e' : Expr} (hids : s.ids = s'.ids)
    (hbuild : Agree (Item.Related similar) (s.build e) (s'.build e'))
    (hfill : ∀ forward slot name p p', s'.lookUp id = .ok forward → forward.rule = .forward slot name →
      s'.target? slot = none → s'.parser e' = .ok p' → similar p p' →
        kept (s.fill slot p) (s'.fill slot p')) :
    Agree kept (s.defineId id e) (s'.defineId id e') := by
  have hparser : s'.parser e' = s'.build e' >>= Item.asParser := rfl
  rw [defineId, defineId, lookUp_congr hids]
  cases hid : s'.lookUp id with
  | error f => exact .error f
  | ok forward =>
      change Agree kept (s.build e >>= s.define forward) (s'.build e' >>= s'.define forward)
      generalize s.build e = x, s'.build e' = y at hbuild hparser
      cases hbuild with
      | error f => exact .error f
      | ok hitem =>
          refine define_agree hfree forward (hitem.asParser hrefl) fun slot name p p' hrule hslot hp' hp => ?_
          exact hfill forward slot name p p' hid hrule hslot (hparser.trans hp') hp

end

end Store

end Descent
