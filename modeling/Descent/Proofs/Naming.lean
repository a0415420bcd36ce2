import Descent.Proofs.Editing
import Descent.Proofs.Relabeling

namespace Descent

mutual

-- The second expression is the first one with names put onto some of its parsers. Where names are joined it
-- matters whether they are texts, so a name that can be joined takes the place of such a name: a text, or what
-- counts as false and leaves the name of a function.
inductive Expr.Renamed : Expr → Expr → Prop
  | same (e : Expr) : Expr.Renamed e e
  | inserted {e e' : Expr} (name : Plain) :
      ¬e.IsValue → e.Joinable → (Expr.named name e').Joinable → Expr.Renamed e e' →
        Expr.Renamed e (.named name e')
  | sequence {items items' : List Expr} (reducer : Reducer) :
      List.Forall₂ Expr.Renamed items items' →
        Expr.Renamed (.sequence items reducer) (.sequence items' reducer)
  | choice {es es' : List Expr} :
      List.Forall₂ Expr.Renamed es es' → Expr.Renamed (.choice es) (.choice es')
  | either {left left' right right' : Expr} :
      ¬left.IsValue → Expr.Renamed left left' → Expr.Renamed right right' →
        Expr.Renamed (.either left right) (.either left' right')
  | unary {e e' : Expr} (op : Unary) :
      Expr.Renamed e e' → Expr.Renamed (.unary op e) (.unary op e')
  | sepBy {separator separator' element element' : Expr} :
      Expr.Renamed separator separator' → Expr.Renamed element element' →
        Expr.Renamed (.sepBy separator element) (.sepBy separator' element')
  | label {e e' : Expr} (name : Plain) :
      Expr.Renamed e e' → Expr.Renamed (.label name e) (.label name e')
  | named {e e' : Expr} (name : Plain) :
      Expr.Renamed e e' → Expr.Renamed (.named name e) (.named name e')
  | bind {first first' : Expr} {next next' : Continuation} :
      Expr.Renamed first first' → Continuation.Renamed next next' →
        Expr.Renamed (.bind first next) (.bind first' next')
  | asParser {e e' : Expr} : Expr.Renamed e e' → Expr.Renamed (.asParser e) (.asParser e')

-- The parsers that a continuation answers with are parsers of the grammar too.
inductive Continuation.Renamed : Continuation → Continuation → Prop
  | same (next : Continuation) : Continuation.Renamed next next
  | constant {e e' : Expr} :
      Expr.Renamed e e' → Continuation.Renamed (.constant e) (.constant e')
  | rebuilt {e e' : Expr} : Expr.Renamed e e' → Continuation.Renamed (.rebuilt e) (.rebuilt e')
  | paired {e e' : Expr} : Expr.Renamed e e' → Continuation.Renamed (.paired e) (.paired e')
  | onText {e e' : Expr} {next next' : Continuation} (text : Text) :
      Expr.Renamed e e' → Continuation.Renamed next next' →
        Continuation.Renamed (.onText text e next) (.onText text e' next')

end

namespace Parser

-- Parsers that differ in names only, with the same expressions to be built on call but for names.
abbrev Similar : Parser → Parser → Prop :=
  Parser.Like Expr.Renamed

theorem similar_refl (p : Parser) : p.Similar p :=
  like_refl .same p

theorem similar_congruent : Parser.Congruent Similar Expr.Renamed where
  closed := like_closed
  inserted _ _ name h := h.named name
  named _ _ _ h := by
    cases h with
    | intro hrule => exact .intro hrule.copied_both
  same := .same

end Parser

-- Putting names onto parsers is editing in which nothing is replaced.
mutual

theorem Expr.Renamed.edited {e : Expr} (e' : Expr) (h : e.Renamed e') :
    e.Edited (fun _ _ => False) Expr.Renamed e' := by
  match e', h with
  | _, .same e => exact .same e
  | .named _ e', .inserted name hvalue hjoins hname h =>
      exact .inserted name hvalue hjoins hname (h.edited e')
  | .sequence items' reducer, .sequence _ hitems =>
      exact .sequence reducer (Expr.Renamed.editedAll items' hitems)
  | .choice es', .choice hes => exact .choice (Expr.Renamed.editedAll es' hes)
  | .either left' right', .either hvalue hleft hright =>
      exact .either hvalue (hleft.edited left') (hright.edited right')
  | .unary op e', .unary _ h => exact .unary op (h.edited e')
  | .sepBy separator' element', .sepBy hseparator helement =>
      exact .sepBy (hseparator.edited separator') (helement.edited element')
  | .label name e', .label _ h => exact .label name (h.edited e')
  | .named name e', .named _ h => exact .named name (h.edited e')
  | .bind first' next', .bind hfirst hnext =>
      exact .bind (hfirst.edited first') (hnext.edited next')
  | .asParser e', .asParser h => exact .asParser (h.edited e')

theorem Expr.Renamed.editedAll {es : List Expr} (es' : List Expr) (h : List.Forall₂ Expr.Renamed es es') :
    List.Forall₂ (Expr.Edited (fun _ _ => False) Expr.Renamed) es es' := by
  match es', h with
  | [], .nil => exact .nil
  | e' :: es', .cons he hes => exact .cons (he.edited e') (Expr.Renamed.editedAll es' hes)

theorem Continuation.Renamed.edited {k : Continuation} (k' : Continuation) (h : k.Renamed k') :
    k.Edited (fun _ _ => False) Expr.Renamed k' := by
  match k', h with
  | _, .same k => exact .same k
  | .constant e', .constant h => exact .constant (h.edited e')
  | .rebuilt e', .rebuilt h => exact .rebuilt h
  | .paired e', .paired h => exact .paired (h.edited e')
  | .onText text e' k', .onText _ h hk =>
      exact .onText text (h.edited e') (hk.edited k')

end

namespace Expr

variable [CharNames] {lookUp : String → Except Fault Parser}
  (hids : ∀ id p, lookUp id = .ok p → p.Joinable)

include hids

theorem replaceable_named : Replaceable lookUp Parser.Similar (fun _ _ => False) Expr.Renamed :=
  { Parser.similar_congruent with ids := hids, parts := fun _ _ h => h.elim }

theorem Renamed.build_agree {e e' : Expr} (h : e.Renamed e') :
    Agree (Item.Related Parser.Similar) (e.build lookUp) (e'.build lookUp) :=
  ((replaceable_named hids).build_agree e' (h.edited e')).mono fun _ _ hitem =>
    hitem.mono fun _ _ hp => hp.1

end Expr

namespace Store

-- Stores in which the same ids mean the same, by names that can be joined, and whose placeholders have
-- targets that differ in names only.
structure Like (s s' : Store) : Prop where
  ids : s.ids = s'.ids
  joins : s.Joins
  slots : s.targets.length = s'.targets.length
  targets : ∀ slot, Option.Rel Parser.Similar (s.target? slot) (s'.target? slot)

-- The same rules, with names put onto parsers in them.
abbrev RulesRenamed : List (String × Expr) → List (String × Expr) → Prop :=
  List.Forall₂ fun r r' => r.1 = r'.1 ∧ r.2.Renamed r'.2

variable {s s' : Store} {p p' : Parser} {e e' : Expr}

theorem Joins.like_self (hs : s.Joins) : s.Like s where
  ids := rfl
  joins := hs
  slots := rfl
  targets slot := rel_refl Parser.similar_refl (s.target? slot)

theorem Like.lookUp_eq (hs : s.Like s') : s.lookUp = s'.lookUp :=
  lookUp_congr hs.ids

theorem Like.fill (hs : s.Like s') (slot : Nat) (hp : p.Similar p') :
    (s.fill slot p).Like (s'.fill slot p') where
  ids := hs.ids
  joins := hs.joins
  slots := by simp [Store.fill, hs.slots]
  targets := target?_fill_rel hs.slots hs.targets slot hp

variable [CharNames]

theorem Like.build_agree (hs : s.Like s') (he : e.Renamed e') :
    Agree (Item.Related Parser.Similar) (s.build e) (s'.build e') := by
  rw [build, build, ← hs.lookUp_eq]
  exact he.build_agree hs.joins

theorem Like.parser_agree (hs : s.Like s') (he : e.Renamed e') :
    Agree Parser.Similar (s.parser e) (s'.parser e') :=
  (hs.build_agree he).bind fun _ _ hitem => hitem.asParser Parser.similar_refl

theorem Like.defineId_agree (hs : s.Like s') (id : String) (he : e.Renamed e') :
    Agree Like (s.defineId id e) (s'.defineId id e') :=
  Store.defineId_agree (fun slot => eq_none_iff_of_rel (hs.targets slot)) Parser.similar_refl hs.ids
    (hs.build_agree he) fun _ slot _ _ _ _ _ _ _ hp => hs.fill slot hp

variable {rules rules' : List (String × Expr)}

theorem ofRules_agree (h : RulesRenamed rules rules') : Agree Like (ofRules rules) (ofRules rules') :=
  ofRules_related h (fun _ _ id _ _ hs he => hs.defineId_agree id he)
    (joins_declareAll rules).like_self

theorem Like.env_like (hs : s.Like s') (tracing tracing' : Bool) :
    (s.env tracing).Like Expr.Renamed (s'.env tracing') where
  targets := hs.targets
  ids id := by
    change Agree _ (s.lookUp id) (s'.lookUp id)
    rw [hs.lookUp_eq]
    exact .refl Parser.similar_refl _
  builds e e' he := (hs.build_agree he).bind fun _ _ hitem => hitem.callable

-- A grammar is put together with names inserted as it is without them, and the same comes of every text.
theorem outcome_ofRules_renamed (hrules : RulesRenamed rules rules') (he : e.Renamed e')
    (hs : ofRules rules = .ok s) (hp : s.parser e = .ok p) :
    ∃ s' p', ofRules rules' = .ok s' ∧ s'.parser e' = .ok p' ∧ ∀ tracing tracing' limit t,
      (p.invoke (s.env tracing) limit t).outcome = (p'.invoke (s'.env tracing') limit t).outcome := by
  have hstores := ofRules_agree hrules
  rw [hs] at hstores
  generalize hs' : ofRules rules' = built at hstores
  cases hstores with
  | @ok _ s' hlike =>
      have hparsers := hlike.parser_agree he
      rw [hp] at hparsers
      generalize hp' : s'.parser e' = made at hparsers
      cases hparsers with
      | @ok _ p' hsimilar =>
          exact ⟨s', p', rfl, hp', fun tracing tracing' limit t =>
            hsimilar.outcome_eq (hlike.env_like tracing tracing') limit t⟩

end Store

end Descent
