import Descent.Proofs.Editing

namespace Descent

-- Expressions that are made of no others.
def Expr.IsLeaf : Expr → Prop
  | .plain _ | .stock _ | .char _ | .pattern _ _ _ | .symbol _ | .oneOf _ | .succeed _ | .ref _
  | .lookUp _ _ | .custom _ _ => True
  | _ => False

mutual

-- The second expression is the first one with symbols in the place of strings, in any of the positions of
-- its combinators where a parser is wanted, also inside of what its continuations answer with.
inductive Expr.Coerced : Expr → Expr → Prop
  | leaf {e : Expr} : e.IsLeaf → Expr.Coerced e e
  | sequence {items items' : List Expr} (reducer : Reducer) :
      List.Forall₂ Expr.Placed items items' →
        Expr.Coerced (.sequence items reducer) (.sequence items' reducer)
  -- A list that is a plain value has its items written out.
  | listed {vs : List Plain} {items' : List Expr} (reducer : Reducer) :
      List.Forall₂ Expr.Placed (vs.map .plain) items' →
        Expr.Coerced (.sequenceOf (.plain (.list vs)) reducer) (.sequence items' reducer)
  | sequenceOf {items items' : Expr} (reducer : Reducer) :
      Expr.Coerced items items' →
        Expr.Coerced (.sequenceOf items reducer) (.sequenceOf items' reducer)
  | choice {es es' : List Expr} :
      List.Forall₂ Expr.Placed es es' → Expr.Coerced (.choice es) (.choice es')
  -- Right of the bar a parser is wanted if a parser stands left of it.
  | besides {left left' right right' : Expr} :
      ¬left.IsValue → Expr.Coerced left left' → Expr.Placed right right' →
        Expr.Coerced (.either left right) (.either left' right')
  | either {left left' right right' : Expr} :
      Expr.Coerced left left' → Expr.Coerced right right' →
        Expr.Coerced (.either left right) (.either left' right')
  | unary {e e' : Expr} (op : Unary) :
      Expr.Placed e e' → Expr.Coerced (.unary op e) (.unary op e')
  | sepBy {separator separator' element element' : Expr} :
      Expr.Placed separator separator' → Expr.Placed element element' →
        Expr.Coerced (.sepBy separator element) (.sepBy separator' element')
  | label {e e' : Expr} (name : Plain) :
      Expr.Placed e e' → Expr.Coerced (.label name e) (.label name e')
  | named {e e' : Expr} (name : Plain) :
      Expr.Coerced e e' → Expr.Coerced (.named name e) (.named name e')
  | bind {first first' : Expr} {next next' : Continuation} :
      Expr.Placed first first' → Continuation.Coerced next next' →
        Expr.Coerced (.bind first next) (.bind first' next')
  | asParser {e e' : Expr} : Expr.Placed e e' → Expr.Coerced (.asParser e) (.asParser e')

-- What may stand for the first expression where a parser is wanted.
inductive Expr.Placed : Expr → Expr → Prop
  | literal {s : String} : s ≠ "" → Expr.Placed (.plain (.text s)) (.symbol (.text s))
  | coerced {e e' : Expr} : Expr.Coerced e e' → Expr.Placed e e'

-- An answer is called as it is. Only what is paired with the match goes to a combinator.
inductive Continuation.Coerced : Continuation → Continuation → Prop
  | counted : Continuation.Coerced .counted .counted
  | again : Continuation.Coerced .again .again
  | result : Continuation.Coerced .result .result
  | constant {e e' : Expr} :
      Expr.Coerced e e' → Continuation.Coerced (.constant e) (.constant e')
  | rebuilt {e e' : Expr} : Expr.Coerced e e' → Continuation.Coerced (.rebuilt e) (.rebuilt e')
  | paired {e e' : Expr} : Expr.Placed e e' → Continuation.Coerced (.paired e) (.paired e')
  | onText {e e' : Expr} {next next' : Continuation} (text : Text) :
      Expr.Coerced e e' → Continuation.Coerced next next' →
        Continuation.Coerced (.onText text e next) (.onText text e' next')

end

mutual

theorem Expr.Coerced.refl (e : Expr) : e.Coerced e := by
  match e with
  | .sequence items reducer => exact .sequence reducer (Expr.Placed.refl_all items)
  | .sequenceOf items reducer => exact .sequenceOf reducer (Expr.Coerced.refl items)
  | .choice es => exact .choice (Expr.Placed.refl_all es)
  | .either left right => exact .either (Expr.Coerced.refl left) (Expr.Coerced.refl right)
  | .unary op e => exact .unary op (.coerced (Expr.Coerced.refl e))
  | .sepBy separator element =>
      exact .sepBy (.coerced (Expr.Coerced.refl separator)) (.coerced (Expr.Coerced.refl element))
  | .label name e => exact .label name (.coerced (Expr.Coerced.refl e))
  | .named name e => exact .named name (Expr.Coerced.refl e)
  | .bind first next =>
      exact .bind (.coerced (Expr.Coerced.refl first)) (Continuation.Coerced.refl next)
  | .asParser e => exact .asParser (.coerced (Expr.Coerced.refl e))
  | .plain _ | .stock _ | .char _ | .pattern _ _ _ | .symbol _ | .oneOf _ | .succeed _ | .ref _
  | .lookUp _ _ | .custom _ _ => exact .leaf trivial

theorem Expr.Placed.refl_all (es : List Expr) : List.Forall₂ Expr.Placed es es := by
  match es with
  | [] => exact .nil
  | e :: es => exact .cons (.coerced (Expr.Coerced.refl e)) (Expr.Placed.refl_all es)

theorem Continuation.Coerced.refl (next : Continuation) : next.Coerced next := by
  match next with
  | .constant e => exact .constant (Expr.Coerced.refl e)
  | .rebuilt e => exact .rebuilt (Expr.Coerced.refl e)
  | .counted => exact .counted
  | .again => exact .again
  | .result => exact .result
  | .paired e => exact .paired (.coerced (Expr.Coerced.refl e))
  | .onText text e next => exact .onText text (Expr.Coerced.refl e) (Continuation.Coerced.refl next)

end

namespace Parser

-- Parsers that have one name and one rule, but for strings in what their continuations build on call.
inductive Twin : Parser → Parser → Prop
  | intro {p p' : Parser} : p.name = p'.name → p.isForward = p'.isForward →
      p.rule.Like Twin Expr.Coerced p'.rule → Twin p p'

variable {p p' q q' : Parser} {ps ps' : List Parser}

namespace Twin

theorem refl (p : Parser) : p.Twin p :=
  Parser.refl_of_parts (fun _ h => .intro rfl rfl h) Expr.Coerced.refl p

theorem name_eq (h : p.Twin p') : p.name = p'.name := by
  cases h with
  | intro hname _ _ => exact hname

theorem shown_eq (h : p.Twin p') : p.shown = p'.shown := by
  rw [shown, shown, h.name_eq]

theorem isForward_eq (h : p.Twin p') : p.isForward = p'.isForward := by
  cases h with
  | intro _ hforward _ => exact hforward

theorem rule_like (h : p.Twin p') : p.rule.Like Twin Expr.Coerced p'.rule := by
  cases h with
  | intro _ _ hrule => exact hrule

theorem typeName_eq (h : p.Twin p') : p.typeName = p'.typeName := by
  rw [typeName, typeName, h.isForward_eq]

-- Placeholders have the same slot, as a copy is no twin of what it is a copy of.
theorem rule_cases (h : p.Twin p') : p.rule = p'.rule ∨ p.Composed ∧ p'.Composed := by
  have hforward := h.isForward_eq
  have hrule := h.rule_like
  unfold Composed
  unfold isForward at hforward ⊢
  generalize p.rule = rule, p'.rule = rule' at hforward hrule
  cases hrule with
  | own _ => exact .inl rfl
  | copied slot name => cases hforward
  | _ => exact .inr ⟨rfl, rfl⟩

theorem namesOf_eq (h : List.Forall₂ Twin ps ps') : namesOf ps = namesOf ps' := by
  induction h with
  | nil => rfl
  | cons hp _ ih => exact congrArg₂ List.cons hp.shown_eq ih

theorem named (h : p.Twin p') (name : Plain) : (p.named name).Twin (p'.named name) := by
  have hrule := h.rule_like.copied_both
  have hforward := (composed_named name p).trans (composed_named name p').symm
  refine .intro ?_ hforward hrule
  rw [Parser.named, Parser.named, ofRule, ofRule, hrule.functionName_eq]

theorem sequence (reducer : Reducer) (h : List.Forall₂ Twin ps ps') :
    (Parser.sequence ps reducer).Twin (Parser.sequence ps' reducer) := by
  refine .intro ?_ rfl (.sequence reducer h)
  rw [Parser.sequence, Parser.sequence, namesOf_eq h]

theorem choice (h : List.Forall₂ Twin ps ps') : (Parser.choice ps).Twin (Parser.choice ps') := by
  refine .intro ?_ rfl (.choice h)
  rw [Parser.choice, Parser.choice, namesOf_eq h]
  rfl

theorem ofUnary (op : Unary) (h : p.Twin p') : (Parser.ofUnary op p).Twin (Parser.ofUnary op p') := by
  have hshown : ∀ word : String, calling word p.shown = calling word p'.shown := by
    simp only [h.shown_eq, implies_true]
  cases op with
  | attempt => exact .intro (hshown "try") rfl (.attempt h)
  | maybe => exact .intro (hshown "maybe") rfl (.maybe h)
  | many => exact .intro (hshown "many") rfl (.many h)
  | many1 => exact .intro (hshown "many1") rfl (.many1 h)
  | lexeme => exact .intro (hshown "lexeme") rfl (.lexeme h)
  | parens =>
      have hparts : List.Forall₂ Twin [char '(', p, char ')'] [char '(', p', char ')'] :=
        .cons (refl _) (.cons h (.cons (refl _) .nil))
      change (Parser.parens p).Twin (Parser.parens p')
      rw [Parser.parens, Parser.parens, hshown "parens"]
      exact (sequence (.nth 1) hparts).named _

theorem sepBy (hp : p.Twin p') (hq : q.Twin q') : (Parser.sepBy p q).Twin (Parser.sepBy p' q') := by
  refine .intro ?_ rfl (.sepBy hq (sequence (.nth 1) (.cons hp (.cons hq .nil))))
  rw [Parser.sepBy, Parser.sepBy, hp.shown_eq, hq.shown_eq]

theorem label (name : String) (h : p.Twin p') : (Parser.label name p).Twin (Parser.label name p') :=
  .intro (congrArg (fun shown => Plain.text (name ++ ":" ++ shown)) h.shown_eq) rfl (.label name h)

theorem bind {next next' : Match → Next Parser} (hp : p.Twin p')
    (hnext : ∀ m, (next m).Like Twin Expr.Coerced (next' m)) : (p.bind next).Twin (p'.bind next') :=
  .intro (congrArg (calling "bind") hp.shown_eq) rfl (.bind hp hnext)

theorem combining : Combining Twin Expr.Coerced where
  refl := refl
  joins h := congrArg Plain.typeIfNoText h.name_eq
  sequence := sequence
  choice := choice
  unary := ofUnary
  sepBy := sepBy
  label := label
  bind := bind

end Twin

end Parser

namespace Run

-- The same run, in its records as well as in its outcome.
theorem eq_stepwise : Stepwise fun x y => x = y where
  refl _ := rfl
  bind h hf := by
    rw [h]
    exact bind_congr hf

end Run

namespace Parser

variable {p p' : Parser} {env env' : Env}

-- Twins make the same invocations, in surroundings where everything they refer to has a twin.
theorem Twin.invoke_eq (hp : p.Twin p') (henv : env.Related Twin Expr.Coerced env')
    (htracing : env.tracing = env'.tracing) (limit : Nat) (t : Text) :
    p.invoke env limit t = p'.invoke env' limit t := by
  induction limit generalizing p p' t with
  | zero => rfl
  | succ limit ih =>
      have hperform : p.rule.perform (invoke env limit) env t =
          p'.rule.perform (invoke env' limit) env' t :=
        Rule.perform_compares Run.eq_stepwise henv hp.rule_like fun _ _ hq u => ih hq u
      rw [invoke_succ, invoke_succ, hperform, noted, noted, hp.shown_eq, htracing]

end Parser

namespace Item

variable {item item' other other' : Item}

theorem Related.typeName_eq (h : item.Related Parser.Twin item') : item.typeName = item'.typeName := by
  cases h with
  | parser hp => exact hp.typeName_eq
  | plain v => rfl

theorem Related.elements_agree (h : item.Related Parser.Twin item') :
    Agree (List.Forall₂ (Exchangeable Parser.Twin)) item.elements item'.elements := by
  cases h with
  | parser hp =>
      rw [elements, elements, (Related.parser hp).typeName_eq]
      · exact .error _
      all_goals simp
  | plain v =>
      exact .refl (fun items => List.forall₂_same.mpr fun i _ => .refl Parser.Twin.refl i.asParser) _

-- Between plain values the bar has the meaning it has for them, and it says what stands at its sides.
theorem Related.either?_agree (h : item.Related Parser.Twin item')
    (hother : other.Related Parser.Twin other') :
    Agree (Item.Related Parser.Twin) (Parser.either? item other) (Parser.either? item' other') := by
  cases h with
  | parser hp => exact Parser.Twin.combining.either?_agree hp (hother.asParser Parser.Twin.refl)
  | plain v =>
      cases hother with
      | parser hq =>
          rw [Parser.either?, Parser.either?, hq.typeName_eq]
          exact .error _
      | plain w => exact .refl (related_refl Parser.Twin.refl) _

end Item

namespace Expr

variable [CharNames] {lookUp lookUp' : String → Except Fault Parser} {e e' : Expr}

theorem IsLeaf.build_agree (h : e.IsLeaf) (hids : ∀ id, Agree Parser.Twin (lookUp id) (lookUp' id)) :
    Agree (Item.Related Parser.Twin) (e.build lookUp) (e.build lookUp') := by
  have hsame : ∀ x : Except Fault Item, Agree (Item.Related Parser.Twin) x x :=
    Agree.refl (Item.related_refl Parser.Twin.refl)
  cases e with
  | ref id => exact made_agree (hids id)
  | plain _ | stock _ | char _ | pattern _ _ _ | symbol _ | oneOf _ | succeed _ | lookUp _ _
  | custom _ _ => exact hsame _
  | _ => exact h.elim

-- A string and its symbol stand for the same parser.
theorem Placed.build_agree (h : e.Placed e')
    (hcoerced : e.Coerced e' → Agree (Item.Related Parser.Twin) (e.build lookUp) (e'.build lookUp')) :
    Agree (Item.Exchangeable Parser.Twin) (e.build lookUp) (e'.build lookUp') := by
  cases h with
  | coerced h => exact (hcoerced h).mono fun _ _ hitem => hitem.asParser Parser.Twin.refl
  | @literal s hs =>
      have hsymbol : Parser.symbol? (.text s) = .ok (Parser.symbol s.toList) := by
        simp [Parser.symbol?, hs]
      have hitem : (Item.plain (.text s)).asParser = .ok (Parser.symbol s.toList) := hsymbol
      rw [build, build, hsymbol]
      refine .ok ?_
      rw [Item.Exchangeable, hitem]
      exact .ok (.refl _)

theorem buildAll_plain (vs : List Plain) :
    buildAll lookUp (vs.map .plain) = .ok (vs.map .plain) := by
  induction vs with
  | nil => rfl
  | cons v vs ih =>
      rw [List.map_cons, buildAll, build, ih]
      rfl

theorem build_sequenceOf_list (vs : List Plain) (reducer : Reducer) :
    (sequenceOf (.plain (.list vs)) reducer).build lookUp =
      (sequence (vs.map .plain) reducer).build lookUp := by
  rw [build, build, build, buildAll_plain]
  rfl

mutual

-- By recursion on the second expression. What stands in a position is no smaller than the expression
-- there, so `Placed.build_agree` is given what the recursion says of that.
theorem Coerced.build_agree (hids : ∀ id, Agree Parser.Twin (lookUp id) (lookUp' id)) {e : Expr}
    (e' : Expr) (h : e.Coerced e') :
    Agree (Item.Related Parser.Twin) (e.build lookUp) (e'.build lookUp') := by
  match e', h with
  | _, .leaf hleaf => exact hleaf.build_agree hids
  | .sequence items' reducer, .sequence _ hitems =>
      exact (Placed.buildAll_agree hids items' hitems).bind fun _ _ hbuilt =>
        made_agree (Parser.Twin.combining.sequence?_agree reducer hbuilt)
  | .sequence items' reducer, .listed _ hitems =>
      rw [build_sequenceOf_list]
      exact (Placed.buildAll_agree hids items' hitems).bind fun _ _ hbuilt =>
        made_agree (Parser.Twin.combining.sequence?_agree reducer hbuilt)
  | .sequenceOf items' reducer, .sequenceOf _ hitems =>
      exact (Coerced.build_agree hids items' hitems).bind fun _ _ hitem =>
        hitem.elements_agree.bind fun _ _ hbuilt =>
          made_agree (Parser.Twin.combining.sequence?_agree reducer hbuilt)
  | .choice es', .choice hes =>
      exact (Placed.buildAll_agree hids es' hes).bind fun _ _ hbuilt =>
        made_agree (Parser.Twin.combining.choice?_agree hbuilt)
  | .either left' right', .besides hvalue hleft hright =>
      have hparser := (Coerced.build_agree hids left' hleft).and_left (build_isParser _ hvalue)
      refine hparser.bind fun _ _ ha =>
        (hright.build_agree (Coerced.build_agree hids right')).bind fun _ _ hb => ?_
      obtain ⟨hlike, hleft⟩ := ha
      cases hlike with
      | parser hp => exact Parser.Twin.combining.either?_agree hp hb
      | plain v => exact hleft.elim
  | .either left' right', .either hleft hright =>
      exact (Coerced.build_agree hids left' hleft).bind fun _ _ ha =>
        (Coerced.build_agree hids right' hright).bind fun _ _ hb => ha.either?_agree hb
  | .unary op e', .unary _ h =>
      exact (h.build_agree (Coerced.build_agree hids e')).bind fun _ _ hitem =>
        made_agree (Parser.Twin.combining.unary?_agree op hitem)
  | .sepBy separator' element', .sepBy hseparator helement =>
      exact (hseparator.build_agree (Coerced.build_agree hids separator')).bind fun _ _ ha =>
        (helement.build_agree (Coerced.build_agree hids element')).bind fun _ _ hb =>
          made_agree (Parser.Twin.combining.sepBy?_agree ha hb)
  | .label name e', .label _ h =>
      exact (h.build_agree (Coerced.build_agree hids e')).bind fun _ _ hitem =>
        made_agree (Parser.Twin.combining.label?_agree name hitem)
  | .named name e', .named _ h =>
      refine (Coerced.build_agree hids e' h).bind fun _ _ hitem => ?_
      cases hitem with
      | parser hp => exact .ok (.parser (hp.named name))
      | plain v => exact .error _
  | .bind first' next', .bind hfirst hnext =>
      exact (hfirst.build_agree (Coerced.build_agree hids first')).bind fun _ _ hitem =>
        (Coerced.continuation_agree hids next' hnext).bind fun _ _ hk =>
          hitem.bind fun _ _ hp => .ok (.parser (hp.bind hk))
  | .asParser e', .asParser h =>
      exact (h.build_agree (Coerced.build_agree hids e')).bind fun _ _ hitem => made_agree hitem

theorem Placed.buildAll_agree (hids : ∀ id, Agree Parser.Twin (lookUp id) (lookUp' id))
    {es : List Expr} (es' : List Expr) (h : List.Forall₂ Expr.Placed es es') :
    Agree (List.Forall₂ (Item.Exchangeable Parser.Twin)) (buildAll lookUp es) (buildAll lookUp' es') := by
  match es', h with
  | [], .nil => exact .ok .nil
  | e' :: es', .cons he hes =>
      exact (he.build_agree (Coerced.build_agree hids e')).bind fun _ _ hitem =>
        (Placed.buildAll_agree hids es' hes).bind fun _ _ hitems => .ok (.cons hitem hitems)

theorem Coerced.continuation_agree (hids : ∀ id, Agree Parser.Twin (lookUp id) (lookUp' id))
    {k : Continuation} (k' : Continuation) (h : k.Coerced k') :
    Agree (fun next next' => ∀ m, (next m).Like Parser.Twin Expr.Coerced (next' m))
      (k.build lookUp) (k'.build lookUp') := by
  match k', h with
  | .counted, .counted => exact .ok fun _ => .refl Parser.Twin.refl Coerced.refl _
  | .again, .again => exact .ok fun _ => .refl Parser.Twin.refl Coerced.refl _
  | .result, .result => exact .ok fun _ => .refl Parser.Twin.refl Coerced.refl _
  | .constant e', .constant h =>
      exact (Coerced.build_agree hids e' h).bind fun _ _ hitem => .ok fun _ => hitem.next
  | .rebuilt e', .rebuilt h => exact .ok fun _ => .build h
  | .paired e', .paired h =>
      exact (h.build_agree (Coerced.build_agree hids e')).bind fun _ _ hitem =>
        .ok (Parser.Twin.combining.pairing_like hitem)
  | .onText text e' k', .onText _ h hk =>
      refine (Coerced.build_agree hids e' h).bind fun _ _ hitem =>
        (Coerced.continuation_agree hids k' hk).bind fun _ _ hnext => .ok fun m => ?_
      split
      · exact hitem.next
      · exact hnext m

end

end Expr

end Descent
