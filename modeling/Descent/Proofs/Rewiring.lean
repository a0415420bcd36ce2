import Descent.Proofs.References
import Mathlib.Logic.Function.Basic

namespace Descent

-- A reference to a rule, and another way to write it, which stands for a parser whose name can be joined
-- too.
inductive Expr.Relinked (ids : List String) (rules : List (String × Expr)) : Expr → Expr → Prop
  | byId {id : String} (name : Plain) : id ∈ ids → (Expr.lookUp id name).Joinable →
      Relinked ids rules (.ref id) (.lookUp id name)
  | inPlace {id : String} {e : Expr} : (id, e) ∈ rules → e.Joinable → Relinked ids rules (.ref id) (.asParser e)

theorem Expr.build_asParser [CharNames] (lookUp : String → Except Fault Parser) (e : Expr) :
    (Expr.asParser e).build lookUp = (e.parser lookUp).map Item.parser := by
  rw [Expr.build, Expr.parser]
  cases e.build lookUp with
  | error f => rfl
  | ok item =>
      change (item.asParser >>= fun p => Except.ok (Item.parser p)) = item.asParser.map Item.parser
      cases item.asParser <;> rfl

namespace Store

-- The same rules with references replaced, and names put onto parsers. In place of a reference stands what
-- one of the rules before says, with the references in it replaced too.
inductive RulesRewired (ids : List String) : List (String × Expr) → List (String × Expr) → Prop
  | nil : RulesRewired ids [] []
  | snoc {rules rules' : List (String × Expr)} {id : String} {e e' : Expr} : RulesRewired ids rules rules' →
      e.Edited (Expr.Relinked ids rules') Eq e' →
        RulesRewired ids (rules ++ [(id, e)]) (rules' ++ [(id, e')])

variable {s s' : Store} {slot : Nat} {id name : String} {rules rules' : List (String × Expr)}

-- An id that means a placeholder of the store.
def Declared (s : Store) (id : String) : Prop :=
  ∃ slot, ∃ name : String, s.lookUp id = .ok (Parser.forward slot name) ∧ slot < s.targets.length

theorem declared_declare (s : Store) (id name : String) : (s.declare id name).Declared id :=
  ⟨s.targets.length, name, by rw [declare, lookUp_assign, if_pos rfl], by simp [declare, assign]⟩

theorem Declared.declare {other : String} (h : s.Declared other) (id name : String) :
    (s.declare id name).Declared other := by
  by_cases hid : id = other
  · exact hid ▸ declared_declare s id name
  · obtain ⟨slot, shown, hslot, hlt⟩ := h
    refine ⟨slot, shown, ?_, ?_⟩
    · rw [Store.declare, lookUp_assign, if_neg hid]
      exact hslot
    · have hlength : (s.declare id name).targets.length = s.targets.length + 1 := by
        simp [Store.declare, assign]
      omega

theorem declareAll_declared (rules : List (String × Expr)) (s : Store)
    (h : s.Declared id ∨ id ∈ rules.map (·.1)) : (s.declareAll rules).Declared id := by
  induction rules generalizing s with
  | nil => exact h.resolve_right (by simp)
  | cons r rules ih =>
      refine ih (s.declare r.1 r.1) ?_
      rcases h with h | h
      · exact .inl (h.declare r.1 r.1)
      · rcases List.mem_cons.mp h with rfl | h
        · exact .inl (declared_declare s r.1 r.1)
        · exact .inr h

theorem target?_declareAll (rules : List (String × Expr)) (s : Store) (slot : Nat) :
    (s.declareAll rules).target? slot = s.target? slot := by
  induction rules generalizing s with
  | nil => rfl
  | cons r rules ih => exact (ih (s.declare r.1 r.1)).trans (target?_declare s r.1 r.1 slot)

-- How far two stores have come with the same rules but for references.
structure Rewired [CharNames] (ids : List String) (stage : Nat → Nat) (rules : List (String × Expr)) (s s' : Store) :
    Prop where
  ids_eq : s.ids = s'.ids
  joins : s'.Joins
  slots : s.targets.length = s'.targets.length
  declared : ∀ id ∈ ids, s'.Declared id
  bounded : ∀ slot, stage slot ≤ rules.length
  targets : ∀ slot, Option.Rel (Parser.RewiredAt Eq stage (s'.env false) (stage slot))
    (s.target? slot) (s'.target? slot)
  written : ∀ r ∈ rules, ∃ slot q, ∃ name : String, s'.lookUp r.1 = .ok (Parser.forward slot name) ∧
    s'.target? slot = some q ∧ stage slot < rules.length ∧ s'.parser r.2 = .ok q

namespace Rewired

variable [CharNames] {ids : List String} {stage : Nat → Nat}

-- What may be put in place of a reference by now comes to what the placeholder has for its target.
theorem replaceable (hs : s.Rewired ids stage rules s') :
    Expr.Replaceable s'.lookUp (Parser.RewiredAt Eq stage (s'.env false) rules.length)
      (Expr.Relinked ids rules) Eq where
  toCongruent := Parser.rewired_congruent fun _ => rfl
  ids := hs.joins
  parts e e' h := by
    cases h with
    | @byId id name hid hname =>
        obtain ⟨slot, shown, hslot, -⟩ := hs.declared id hid
        have hforward := Parser.joinable_forward slot shown
        have hlookUp : (Parser.lookUp id name).Joinable := Parser.joinable_ofRule hname _
        rw [Expr.build, hslot]
        exact .ok (.parser ⟨.byId rfl rfl hslot rfl, hforward.trans hlookUp.symm⟩)
    | @inPlace id e hmem hjoins =>
        obtain ⟨slot, q, shown, hslot, htarget, hstage, hq⟩ := hs.written _ hmem
        have hforward := Parser.joinable_forward slot shown
        have hjoinable : q.Joinable := Expr.parser_joinable hs.joins hjoins q hq
        rw [Expr.build, hslot, Expr.build_asParser, show e.parser s'.lookUp = .ok q from hq]
        exact .ok (.parser ⟨.inPlace rfl ⟨htarget, hstage⟩ rfl, hforward.trans hjoinable.symm⟩)

theorem build_agree (hs : s.Rewired ids stage rules s') {e e' : Expr}
    (he : e.Edited (Expr.Relinked ids rules) Eq e') :
    Agree (Item.Related (Parser.RewiredAt Eq stage (s'.env false) rules.length)) (s.build e)
      (s'.build e') := by
  rw [build, build, lookUp_congr hs.ids_eq]
  exact (hs.replaceable.build_agree e' he).mono fun _ _ hitem => hitem.mono fun _ _ hp => hp.1

theorem parser_agree (hs : s.Rewired ids stage rules s') {e e' : Expr}
    (he : e.Edited (Expr.Relinked ids rules) Eq e') :
    Agree (Parser.RewiredAt Eq stage (s'.env false) rules.length) (s.parser e) (s'.parser e') :=
  (hs.build_agree he).bind fun _ _ hitem => hitem.asParser hs.replaceable.refl

-- A placeholder that is given its target behind the others changes nothing for those.
theorem rewiredAt_fill {n count : Nat} (hfree : s'.target? slot = none) (hn : n ≤ count) (p' : Parser) :
    Parser.RewiredAt Eq (Function.update stage slot count) ((s'.fill slot p').env false) n =
      Parser.RewiredAt Eq stage (s'.env false) n := by
  have hbefore : TargetedBefore (s'.fill slot p').target? (Function.update stage slot count) n =
      TargetedBefore s'.target? stage n := by
    funext other q
    refine propext ?_
    by_cases hother : slot = other
    · subst hother
      simp [TargetedBefore, hfree, Nat.not_lt.mpr hn]
    · simp [TargetedBefore, target?_fill_ne p' hother, Function.update_of_ne (Ne.symm hother)]
  exact congrArg (Parser.Rewired Eq s'.lookUp) hbefore

theorem fill (hs : s.Rewired ids stage rules s') {e' : Expr} {p p' : Parser}
    (hid : s'.lookUp id = .ok (Parser.forward slot name)) (hlt : slot < s'.targets.length)
    (hfree : s'.target? slot = none) (he : s'.parser e' = .ok p')
    (hp : Parser.RewiredAt Eq stage (s'.env false) rules.length p p') :
    (s.fill slot p).Rewired ids (Function.update stage slot rules.length) (rules ++ [(id, e')])
      (s'.fill slot p') where
  ids_eq := hs.ids_eq
  joins := hs.joins
  slots := by simp [Store.fill, hs.slots]
  declared other hother := by
    obtain ⟨there, shown, hthere, hless⟩ := hs.declared other hother
    exact ⟨there, shown, hthere, by simpa [Store.fill] using hless⟩
  bounded other := by
    rw [List.length_append]
    by_cases hother : other = slot
    · subst hother
      simp
    · rw [Function.update_of_ne hother]
      exact Nat.le_add_right_of_le (hs.bounded other)
  targets other := by
    by_cases hother : slot = other
    · subst hother
      rw [target?_fill hlt, target?_fill (hs.slots ▸ hlt), Function.update_self,
        rewiredAt_fill hfree (Nat.le_refl _)]
      exact .some hp
    · rw [target?_fill_ne p hother, target?_fill_ne p' hother, Function.update_of_ne (Ne.symm hother),
        rewiredAt_fill hfree (hs.bounded other)]
      exact hs.targets other
  written r hr := by
    rw [List.length_append]
    rcases List.mem_append.mp hr with hr | hr
    · obtain ⟨there, q, shown, hthere, htarget, hstage, hq⟩ := hs.written r hr
      have hother : slot ≠ there := by
        rintro rfl
        simp [hfree] at htarget
      refine ⟨there, q, shown, hthere, ?_, ?_, hq⟩
      · rw [target?_fill_ne p' hother, htarget]
      · rw [Function.update_of_ne (Ne.symm hother)]
        exact Nat.lt_add_right _ hstage
    · obtain rfl := List.mem_singleton.mp hr
      exact ⟨slot, p', name, hid, target?_fill hlt, by simp, he⟩

theorem defineId_agree (hs : s.Rewired ids stage rules s') (hid : id ∈ ids) {e e' : Expr}
    (he : e.Edited (Expr.Relinked ids rules) Eq e') :
    Agree (fun t t' => ∃ later, t.Rewired ids later (rules ++ [(id, e')]) t') (s.defineId id e)
      (s'.defineId id e') := by
  refine Store.defineId_agree (fun slot => eq_none_iff_of_rel (hs.targets slot)) hs.replaceable.refl hs.ids_eq
    (hs.build_agree he) ?_
  intro forward slot name p p' hforward hrule hfree hparser hp
  obtain ⟨there, shown, hthere, hlt⟩ := hs.declared id hid
  cases hforward.symm.trans hthere
  cases hrule
  exact ⟨_, hs.fill hthere hlt hfree hparser hp⟩

end Rewired

-- Before anything is defined.
theorem rewired_declareAll [CharNames] (rules : List (String × Expr)) :
    (empty.declareAll rules).Rewired (rules.map (·.1)) (fun _ => 0) [] (empty.declareAll rules) where
  ids_eq := rfl
  joins := joins_declareAll rules
  slots := rfl
  declared id hid := declareAll_declared rules empty (.inr hid)
  bounded _ := Nat.le_refl 0
  targets slot := by
    rw [target?_declareAll]
    exact .none
  written _ hr := nomatch hr

theorem RulesRewired.ids_eq {ids : List String} (h : RulesRewired ids rules rules') :
    rules.map (·.1) = rules'.map (·.1) := by
  induction h with
  | nil => rfl
  | snoc _ _ ih =>
      rw [List.map_append, List.map_append, ih]
      rfl

variable [CharNames]

theorem RulesRewired.defineAll_agree {ids : List String} (h : RulesRewired ids rules rules')
    (hids : ∀ r ∈ rules, r.1 ∈ ids) {stage : Nat → Nat} (hs : s.Rewired ids stage [] s') :
    Agree (fun t t' => ∃ later, t.Rewired ids later rules' t') (s.defineAll rules)
      (s'.defineAll rules') := by
  induction h with
  | nil => exact .ok ⟨stage, hs⟩
  | @snoc rules rules' id e e' _ he ih =>
      obtain ⟨hbefore, hid⟩ := List.forall_mem_append.mp hids
      rw [defineAll, defineAll, List.foldlM_append, List.foldlM_append]
      refine (ih hbefore).bind fun t t' ht => ?_
      obtain ⟨later, ht⟩ := ht
      simp only [List.foldlM_cons, List.foldlM_nil, bind_pure]
      exact ht.defineId_agree (hid (id, e) (by simp)) he

theorem Rewired.env_rewired {ids : List String} {stage : Nat → Nat} (hs : s.Rewired ids stage rules s')
    (tracing tracing' : Bool) :
    (s.env tracing).Rewired Eq stage rules.length (s'.env tracing') where
  bounded := hs.bounded
  targets := hs.targets
  ids id := by
    change Agree _ (s.lookUp id) (s'.lookUp id)
    rw [lookUp_congr hs.ids_eq]
    exact .refl hs.replaceable.refl _
  builds e e' he := he ▸ (hs.build_agree (.same e)).bind fun _ _ hitem => hitem.callable

-- A grammar is put together with references replaced as it is without, and it comes to the same on every
-- text.
theorem comesTo_ofRules_rewired {e e' : Expr} {p : Parser}
    (hrules : RulesRewired (rules.map (·.1)) rules rules')
    (he : e.Edited (Expr.Relinked (rules.map (·.1)) rules') Eq e') (hs : ofRules rules = .ok s)
    (hp : s.parser e = .ok p) :
    ∃ s' p', ofRules rules' = .ok s' ∧ s'.parser e' = .ok p' ∧ ∀ tracing tracing' t,
      ∃ o, p.ComesTo (s.env tracing) t o ∧ p'.ComesTo (s'.env tracing') t o := by
  have hstores := hrules.defineAll_agree (fun r hr => List.mem_map_of_mem hr) (rewired_declareAll rules)
  rw [show (empty.declareAll rules).defineAll rules = .ok s from hs, declareAll_congr hrules.ids_eq] at hstores
  obtain ⟨s', hs', stage, hrewired⟩ := hstores.exists_ok
  have hparsers := hrewired.parser_agree he
  rw [hp] at hparsers
  obtain ⟨p', hp', hsimilar⟩ := hparsers.exists_ok
  refine ⟨s', p', hs', hp', fun tracing tracing' t => ?_⟩
  exact Parser.RewiredAt.exists_comesTo (hrewired.env_rewired tracing tracing') (Nat.le_refl _) hsimilar t

end Store

namespace Parser

-- How a rule is referred to makes no difference: by its placeholder, by a copy of that under another name,
-- by an id that means it, or with the target itself in place where that was there before. Whatever comes of
-- a text, comes of it both ways, only under other nesting limits; and that holds of grammars as they are
-- written too. Repetitions of parsers that lengthen their text are cut off by the same bound on rounds.
theorem references_interchangeable [CharNames] :
    (∀ (alike : Expr → Expr → Prop) (stage : Nat → Nat) (count n : Nat) (env env' : Env) (p p' : Parser),
      env.Rewired alike stage count env' → n ≤ count → RewiredAt alike stage env' n p p' → ∀ t,
        (∃ o, p.ComesTo env t o ∧ p'.ComesTo env' t o) ∧
        ∀ limit, (p.invoke env limit t).Foretells (p'.invoke env' (2 * limit) t) ∧
          (p'.invoke env' limit t).Foretells (p.invoke env (limit * (count + 1) + n) t)) ∧
    (∀ (rules rules' : List (String × Expr)) (e e' : Expr) (s : Store) (p : Parser),
      Store.RulesRewired (rules.map (·.1)) rules rules' →
      e.Edited (Expr.Relinked (rules.map (·.1)) rules') Eq e' → Store.ofRules rules = .ok s →
      s.parser e = .ok p → ∃ s' p', Store.ofRules rules' = .ok s' ∧ s'.parser e' = .ok p' ∧
        ∀ tracing tracing' t, ∃ o, p.ComesTo (s.env tracing) t o ∧ p'.ComesTo (s'.env tracing') t o) := by
  refine ⟨fun alike stage count n env env' p p' henv hn hp t => ⟨?_, fun limit => ⟨?_, ?_⟩⟩, ?_⟩
  · exact hp.exists_comesTo henv hn t
  · exact RewiredUpTo.foretells henv limit ⟨n, hn, hp⟩ t
  · exact hp.foretold henv limit n hn t
  · intro rules rules' e e' s p hrules he hs hp
    exact Store.comesTo_ofRules_rewired hrules he hs hp

-- A number in any number of parentheses, and surroundings where an id means that rule.
def wrapped (inner : Parser) : Parser :=
  choice [natural, sequence [char '(', inner, char ')'] (.nth 1)]

def wrappings (inner : Parser) : Env :=
  { Env.ofTargets [wrapped inner] with lookUp := fun _ => .ok (forward 0 "wrapped") }

-- The reference in the rule itself goes by the id.
theorem wrappings_rewired :
    (wrappings (forward 0 "wrapped")).Rewired (fun _ _ => False) (fun _ => 0) 1
      (wrappings (lookUp "wrapped" "later")) := by
  have hid : RewiredAt (fun _ _ => False) (fun _ => 0) (wrappings (lookUp "wrapped" "later")) 0
      (forward 0 "wrapped") (lookUp "wrapped" "later") := .byId rfl rfl rfl rfl
  have hown : ∀ n, ∀ p : Parser, p.rule.copied.parts = [] →
      RewiredAt (fun _ _ => False) (fun _ => 0) (wrappings (lookUp "wrapped" "later")) n p p :=
    fun n p h => .alike (.own h)
  have hparens := List.Forall₂.cons (hown 0 (char '(') rfl)
    (.cons hid (.cons (hown 0 (char ')') rfl) .nil))
  have hrule : RewiredAt (fun _ _ => False) (fun _ => 0) (wrappings (lookUp "wrapped" "later")) 0
      (wrapped (forward 0 "wrapped")) (wrapped (lookUp "wrapped" "later")) :=
    .alike (.choice (.cons (hown 0 natural rfl) (.cons (.alike (.sequence _ hparens)) .nil)))
  exact {
    bounded := fun _ => Nat.zero_le 1
    targets := fun slot => match slot with
      | 0 => .some hrule
      | _ + 1 => .none
    ids := fun id => .ok (hown 1 (forward 0 "wrapped") rfl)
    builds := fun _ _ h => h.elim }

-- Two of them one behind the other, the first one by a copy of the placeholder and the second one with the
-- rule in place.
def wrappedPair (first second : Parser) : Parser :=
  sequence [first, second] .all

theorem wrappedPair_rewired :
    RewiredAt (fun _ _ => False) (fun _ => 0) (wrappings (lookUp "wrapped" "later")) 1
      (wrappedPair (forward 0 "wrapped") (forward 0 "wrapped"))
      (wrappedPair ((forward 0 "wrapped").named "copy") (wrapped (lookUp "wrapped" "later"))) :=
  .alike (.sequence .all (.cons (.alike (.own rfl))
    (.cons (.inPlace rfl ⟨rfl, Nat.zero_lt_one⟩ rfl) .nil)))

-- Items are numbers and lists in parentheses, and a list has commas between its items. The list is defined
-- behind the item, and so refers to it by its id or has it in place.
def itemExpr (inner : Expr) : Expr :=
  .either (.stock .natural) (.unary .parens inner)

def listExpr (item : Expr) : Expr :=
  .sepBy (.plain (.text ",")) item

def listRules : List (String × Expr) :=
  [("item", itemExpr (.ref "list")), ("list", listExpr (.ref "item"))]

def listRelinked : List (String × Expr) :=
  [("item", itemExpr (.lookUp "list" "later")),
    ("list", listExpr (.asParser (itemExpr (.lookUp "list" "later"))))]

theorem listRules_rewired : Store.RulesRewired (listRules.map (·.1)) listRules listRelinked := by
  have hitem : (itemExpr (.ref "list")).Edited (Expr.Relinked (listRules.map (·.1)) []) Eq
      (itemExpr (.lookUp "list" "later")) :=
    .either id (.same _) (.unary .parens (.replaced (.byId "later" (by simp [listRules]) fun _ => rfl)))
  have hlist : (listExpr (.ref "item")).Edited
      (Expr.Relinked (listRules.map (·.1)) [("item", itemExpr (.lookUp "list" "later"))]) Eq
      (listExpr (.asParser (itemExpr (.lookUp "list" "later")))) :=
    .sepBy (.same _) (.replaced (.inPlace (by simp) trivial))
  exact .snoc (.snoc .nil hitem) hlist

def listStore : Store where
  targets := [some (choice [natural, parens (forward 1 "list")]),
    some (sepBy (symbol [',']) (forward 0 "item"))]
  ids := [("list", forward 1 "list"), ("item", forward 0 "item")]

attribute [local instance] CharNames.nameless

theorem references_interchangeable_lists :
    (wrappedPair ((forward 0 "wrapped").named "copy") (wrapped (lookUp "wrapped" "later"))).ComesTo
        (wrappings (lookUp "wrapped" "later")) ['(', '(', '1', ')', ')', '2']
        (.ok (.ok [] (.seq [.leaf ['1'], .leaf ['2']]))) ∧
      ∃ s' p', Store.ofRules listRelinked = .ok s' ∧
        s'.parser (.unary .parens (.named "top" (.ref "list"))) = .ok p' ∧
        p'.ComesTo (s'.env false) ['(', '1', ',', '(', '2', ')', ')']
          (.ok (.ok [] (.seq [.leaf ['1'], .seq [.leaf ['2']]]))) := by
  obtain ⟨hparsers, hgrammars⟩ := references_interchangeable
  have hpair : ((wrappedPair (forward 0 "wrapped") (forward 0 "wrapped")).invoke
      (wrappings (forward 0 "wrapped")) 12 ['(', '(', '1', ')', ')', '2']).outcome =
        .ok (.ok [] (.seq [.leaf ['1'], .leaf ['2']])) := rfl
  have htop : ((parens (forward 1 "list")).invoke (listStore.env false) 12
      ['(', '1', ',', '(', '2', ')', ')']).outcome =
        .ok (.ok [] (.seq [.leaf ['1'], .seq [.leaf ['2']]])) := rfl
  have hedited : (Expr.unary .parens (.ref "list")).Edited
      (Expr.Relinked (listRules.map (·.1)) listRelinked) Eq (.unary .parens (.named "top" (.ref "list"))) :=
    .unary .parens (.inserted "top" id trivial (fun _ => rfl) (.same _))
  constructor
  · obtain ⟨⟨o, ho, ho'⟩, -⟩ := hparsers _ _ _ _ _ _ _ _ wrappings_rewired (Nat.le_refl 1)
      wrappedPair_rewired ['(', '(', '1', ')', ')', '2']
    exact ho.unique (ComesTo.of_outcome hpair (by simp)) ▸ ho'
  · obtain ⟨s', p', hs', hp', hcomes⟩ := hgrammars listRules listRelinked _ _ listStore
      (parens (forward 1 "list")) listRules_rewired hedited rfl rfl
    obtain ⟨o, ho, ho'⟩ := hcomes false false ['(', '1', ',', '(', '2', ')', ')']
    exact ⟨s', p', hs', hp', ho.unique (ComesTo.of_outcome htop (by simp)) ▸ ho'⟩

end Parser

end Descent
