import Descent.Proofs.Coercing

namespace Descent

-- Reports with the same log, and with the same failure or related results.
structure Report.Like {α β : Type} (related : α → β → Prop) (x : Report α) (y : Report β) : Prop where
  outcome : Agree related x.outcome y.outcome
  log : x.log = y.log

namespace Report

variable {α β γ δ : Type} {related : α → β → Prop} {next : γ → δ → Prop}

theorem like_self (x : Report α) : x.Like Eq x :=
  ⟨.refl (fun _ => rfl) _, rfl⟩

theorem Like.pure {a : α} {b : β} (h : related a b) :
    Like related (Pure.pure a : Report α) (Pure.pure b : Report β) :=
  ⟨.ok h, rfl⟩

theorem Like.bind {x : Report α} {y : Report β} {f : α → Report γ} {g : β → Report δ}
    (h : x.Like related y) (hf : ∀ a b, related a b → (f a).Like next (g b)) :
    (x >>= f).Like next (y >>= g) := by
  obtain ⟨outcome, log⟩ := x
  obtain ⟨outcome', log'⟩ := y
  obtain ⟨houtcome, rfl⟩ := h
  cases houtcome with
  | error e => exact ⟨.error e, rfl⟩
  | ok hab =>
      have hnext := hf _ _ hab
      exact ⟨hnext.outcome, congrArg (log ++ ·) hnext.log⟩

end Report

-- Answers that are the same but for the parsers they speak of.
inductive Answer.Like (similar : Parser → Parser → Prop) : Answer → Answer → Prop
  | called {p p' : Parser} (result : Result) (tree : Option Tree) :
      similar p p' → Like similar (.called p result tree) (.called p' result tree)
  | parsed (tree : Option Tree) : Like similar (.parsed tree) (.parsed tree)

inductive Reply.Like (similar : Parser → Parser → Prop) : Reply → Reply → Prop
  | declared {p p' : Parser} (isDefined : Bool) :
      similar p p' → Like similar (.declared p isDefined) (.declared p' isDefined)
  | defined : Like similar .defined .defined
  | bound {p p' : Parser} : similar p p' → Like similar (.bound p) (.bound p')
  | described {p p' : Parser} (isDefined : Bool) :
      similar p p' → Like similar (.described p isDefined) (.described p' isDefined)
  | applied {a a' : Answer} (log : List LogEntry) :
      a.Like similar a' → Like similar (.applied a log) (.applied a' log)

section

variable {similar similar' : Parser → Parser → Prop}

theorem Answer.Like.mono {a a' : Answer} (h : a.Like similar a')
    (himp : ∀ p p', similar p p' → similar' p p') : a.Like similar' a' := by
  cases h with
  | called result tree hp => exact .called result tree (himp _ _ hp)
  | parsed tree => exact .parsed tree

theorem Reply.Like.mono {reply reply' : Reply} (h : reply.Like similar reply')
    (himp : ∀ p p', similar p p' → similar' p p') : reply.Like similar' reply' := by
  cases h with
  | declared isDefined hp => exact .declared isDefined (himp _ _ hp)
  | defined => exact .defined
  | bound hp => exact .bound (himp _ _ hp)
  | described isDefined hp => exact .described isDefined (himp _ _ hp)
  | applied log ha => exact .applied log (ha.mono himp)

end

namespace Parser

-- Parsers that nothing tells apart: they show the same name, are both placeholders or both not, and make
-- the same run of every text, whatever store they find.
structure Indistinct [CharNames] (p p' : Parser) : Prop where
  name_eq : p.name = p'.name
  isForward_eq : p.isForward = p'.isForward
  invoke_eq : ∀ (s : Store) (tracing : Bool) (limit : Nat) (t : Text),
    p.invoke (s.env tracing) limit t = p'.invoke (s.env tracing) limit t

end Parser

namespace Store

-- The same rules, with symbols in the place of strings. A rule is wanted as a parser.
abbrev RulesCoerced : List (String × Expr) → List (String × Expr) → Prop :=
  List.Forall₂ fun r r' => r.1 = r'.1 ∧ r.2.Placed r'.2

-- Stores that hold twins in the same ids and in the same placeholders.
structure Twin (s s' : Store) : Prop where
  slots : s.targets.length = s'.targets.length
  targets : ∀ slot, Option.Rel Parser.Twin (s.target? slot) (s'.target? slot)
  ids : ∀ id, Agree Parser.Twin (s.lookUp id) (s'.lookUp id)

variable {s s' : Store} {p p' forward forward' : Parser} {item item' : Item} {e e' : Expr}
  {rules rules' : List (String × Expr)}

namespace Twin

theorem refl (s : Store) : s.Twin s where
  slots := rfl
  targets slot := rel_refl Parser.Twin.refl (s.target? slot)
  ids id := .refl Parser.Twin.refl (s.lookUp id)

theorem assign (hs : s.Twin s') (id : String) (hp : p.Twin p') : (s.assign id p).Twin (s'.assign id p') where
  slots := hs.slots
  targets := hs.targets
  ids other := by
    rw [lookUp_assign, lookUp_assign]
    split
    · exact .ok hp
    · exact hs.ids other

theorem declare (hs : s.Twin s') (id : String) (name : Plain) :
    (s.declare id name).Twin (s'.declare id name) where
  slots := by simp [Store.declare, Store.assign, hs.slots]
  targets slot := by
    rw [target?_declare, target?_declare]
    exact hs.targets slot
  ids other := by
    rw [Store.declare, Store.declare, lookUp_assign, lookUp_assign, hs.slots]
    split
    · exact .ok (.refl _)
    · exact hs.ids other

theorem fill (hs : s.Twin s') (slot : Nat) (hp : p.Twin p') : (s.fill slot p).Twin (s'.fill slot p') where
  slots := by simp [Store.fill, hs.slots]
  targets := target?_fill_rel hs.slots hs.targets slot hp
  ids := hs.ids

variable [CharNames]

theorem build_agree (hs : s.Twin s') (he : e.Coerced e') :
    Agree (Item.Related Parser.Twin) (s.build e) (s'.build e') :=
  he.build_agree hs.ids e'

theorem placed_agree (hs : s.Twin s') (he : e.Placed e') :
    Agree (Item.Exchangeable Parser.Twin) (s.build e) (s'.build e') :=
  he.build_agree fun h => hs.build_agree h

theorem parser_agree (hs : s.Twin s') (he : e.Placed e') :
    Agree Parser.Twin (s.parser e) (s'.parser e') :=
  (hs.placed_agree he).bind fun _ _ hitem => hitem

theorem env_related (hs : s.Twin s') (tracing : Bool) :
    (s.env tracing).Related Parser.Twin Expr.Coerced (s'.env tracing) where
  targets := hs.targets
  ids := hs.ids
  builds _ _ he := (hs.build_agree he).bind fun _ _ hitem => hitem.callable

theorem invoke_eq (hs : s.Twin s') (hp : p.Twin p') (tracing : Bool) (limit : Nat) (t : Text) :
    p.invoke (s.env tracing) limit t = p'.invoke (s'.env tracing) limit t :=
  hp.invoke_eq (hs.env_related tracing) rfl limit t

end Twin

-- Only a placeholder can be given a target.
theorem define_composed (h : forward.Composed) (s : Store) (item : Item) :
    s.define forward item = .error (.cannotDefine forward.typeName) := by
  unfold define
  split
  · next slot name hrule => exact absurd hrule (h.rule_ne slot name)
  · rfl

theorem isDefined_composed (h : p.Composed) (s : Store) : s.isDefined p = false := by
  unfold isDefined
  split
  · next slot name hrule => exact absurd hrule (h.rule_ne slot name)
  · rfl

theorem define_congr (h : forward.Twin forward') (s : Store) (item : Item) :
    s.define forward item = s.define forward' item := by
  rcases h.rule_cases with hrule | ⟨hforward, hforward'⟩
  · rw [define, define, hrule, h.typeName_eq]
  · rw [define_composed hforward, define_composed hforward', h.typeName_eq]

namespace Twin

theorem isDefined_eq (hs : s.Twin s') (h : p.Twin p') : s.isDefined p = s'.isDefined p' := by
  rcases h.rule_cases with hrule | ⟨hforward, hforward'⟩
  · rw [isDefined, isDefined, hrule]
    split
    · next slot name _ =>
        have htarget := hs.targets slot
        generalize s.target? slot = x, s'.target? slot = y at htarget
        cases htarget <;> rfl
    · rfl
  · rw [isDefined_composed hforward, isDefined_composed hforward']

variable [CharNames]

theorem defineId_agree (hs : s.Twin s') (id : String) (he : e.Placed e') :
    Agree Twin (s.defineId id e) (s'.defineId id e') := by
  refine (hs.ids id).bind fun forward forward' hforward => ?_
  refine (hs.placed_agree he).bind fun item item' hitem => ?_
  rw [define_congr hforward]
  exact define_agree (fun slot => eq_none_iff_of_rel (hs.targets slot)) forward' hitem
    fun slot _ _ _ _ _ _ hp => hs.fill slot hp

theorem rebind_agree (hs : s.Twin s') (id : String) (he : e.Placed e') :
    Agree Twin (s.rebind id e) (s'.rebind id e') :=
  (hs.parser_agree he).bind fun _ _ hp => .ok (hs.assign id hp)

end Twin

theorem ofRules_twin [CharNames] (hrules : RulesCoerced rules rules') :
    Agree Twin (ofRules rules) (ofRules rules') :=
  ofRules_related hrules (fun _ _ id _ _ hs he => hs.defineId_agree id he) (Twin.refl _)

end Store

namespace Application

variable {s s' : Store} {p p' : Parser}

theorem answer_like (hp : p.Twin p') (result : Result) :
    (answer p result).Like (Answer.Like Parser.Twin) (answer p' result) := by
  have hcalled : ∀ x : Report (Option Tree), Report.Like (Answer.Like Parser.Twin)
      (do return .called p result (← x)) (do return .called p' result (← x)) :=
    fun x => x.like_self.bind fun tree _ htree => by
      subst htree
      exact .pure (.called result tree hp)
  cases result with
  | ok rest m => exact hcalled _
  | failed rest m => exact hcalled _

theorem perform_like [CharNames] (hs : s.Twin s') (hp : p.Twin p') (a : Application) (limit : Nat) :
    (a.perform s limit p).Like (Answer.Like Parser.Twin) (a.perform s' limit p') := by
  have hcall : ∀ text, Runner.call (s.env a.tracing) limit p text =
      Runner.call (s'.env a.tracing) limit p' text := by
    intro text
    rw [Runner.call, Runner.call, hs.invoke_eq hp]
  have hrun : ∀ (r : Runner) text, r.run (s.env a.tracing) limit p text =
      r.run (s'.env a.tracing) limit p' text := by
    intro r text
    rw [Runner.run, Runner.run, hcall, hp.shown_eq]
  refine (Report.like_self _).bind fun text _ htext => ?_
  subst htext
  obtain ⟨pieces, mode, tracing⟩ := a
  cases mode with
  | call =>
      simp only [hcall]
      exact (Report.like_self _).bind fun result _ hresult => hresult ▸ answer_like hp result
  | run r =>
      simp only [hrun]
      exact (Report.like_self _).bind fun result _ hresult => hresult ▸ answer_like hp result
  | parse r =>
      simp only [Runner.parse, hrun]
      exact (Report.like_self _).bind fun tree _ htree => htree ▸ .pure (.parsed tree)

end Application

namespace Command

-- Commands with symbols in the place of strings. What is defined, bound or applied is wanted as a parser.
inductive Coerced : Command → Command → Prop
  | declare (id : String) (name : Plain) : Coerced (.declare id name) (.declare id name)
  | define {e e' : Expr} (id : String) : e.Placed e' → Coerced (.define id e) (.define id e')
  | rebind {e e' : Expr} (id : String) : e.Placed e' → Coerced (.rebind id e) (.rebind id e')
  | describe (id : String) : Coerced (.describe id) (.describe id)
  | apply {e e' : Expr} (a : Application) : e.Placed e' → Coerced (.apply e a) (.apply e' a)

variable {s s' : Store} {c c' : Command} {cs cs' : List Command} {p p' : Parser}

theorem applying_agree {x y : Report Answer} (h : x.Like (Answer.Like Parser.Twin) y) :
    Agree (Reply.Like Parser.Twin) (applying x) (applying y) := by
  obtain ⟨outcome, log⟩ := x
  obtain ⟨outcome', log'⟩ := y
  obtain ⟨houtcome, rfl⟩ := h
  cases houtcome with
  | error f => exact .error _
  | ok ha => exact .ok (.applied log ha)

variable [CharNames]

theorem attempt_agree (hs : s.Twin s') (h : c.Coerced c') (limit : Nat) :
    Agree (fun x y => x.1.Twin y.1 ∧ x.2.Like Parser.Twin y.2) (c.attempt limit s)
      (c'.attempt limit s') := by
  cases h with
  | declare id name =>
      have hdeclared := hs.declare id name
      refine ((hdeclared.ids id).mapError _).bind fun p p' hp => .ok ⟨hdeclared, ?_⟩
      exact hdeclared.isDefined_eq hp ▸ .declared _ hp
  | define id he =>
      exact ((hs.defineId_agree id he).mapError _).bind fun _ _ ht => .ok ⟨ht, .defined⟩
  | rebind id he =>
      exact ((hs.rebind_agree id he).mapError _).bind fun _ _ ht =>
        ((ht.ids id).mapError _).bind fun _ _ hp => .ok ⟨ht, .bound hp⟩
  | describe id =>
      refine ((hs.ids id).mapError _).bind fun p p' hp => .ok ⟨hs, ?_⟩
      exact hs.isDefined_eq hp ▸ .described _ hp
  | apply a he =>
      exact ((hs.parser_agree he).mapError _).bind fun _ _ hp =>
        (applying_agree (Application.perform_like hs hp a limit)).bind fun _ _ hreply =>
          .ok ⟨hs, hreply⟩

-- A step that is refused leaves both stores as they were.
theorem step_agree (hs : s.Twin s') (h : c.Coerced c') (limit : Nat) :
    (c.step limit s).1.Twin (c'.step limit s').1 ∧
      Agree (Reply.Like Parser.Twin) (c.step limit s).2 (c'.step limit s').2 := by
  have hagree := attempt_agree hs h limit
  unfold step
  generalize c.attempt limit s = x, c'.attempt limit s' = y at hagree
  cases hagree with
  | error refusal => exact ⟨hs, .error refusal⟩
  | ok hreply => exact ⟨hreply.1, .ok hreply.2⟩

theorem steps_agree (hs : s.Twin s') (h : List.Forall₂ Coerced cs cs') (limit : Nat) :
    List.Forall₂ (Agree (Reply.Like Parser.Twin)) (steps limit s cs).2 (steps limit s' cs').2 := by
  induction h generalizing s s' with
  | nil => exact .nil
  | cons hc _ ih =>
      obtain ⟨hnext, hreply⟩ := step_agree hs hc limit
      exact .cons hreply (ih hnext)

end Command

theorem applyGrammar_agree [CharNames] {rules rules' : List (String × Expr)} {e e' : Expr}
    (hrules : Store.RulesCoerced rules rules') (he : e.Placed e') (limit : Nat) (a : Application) :
    Agree (Reply.Like Parser.Twin) (applyGrammar limit rules e a) (applyGrammar limit rules' e' a) :=
  ((Store.ofRules_twin hrules).mapError _).bind fun _ _ hs =>
    ((hs.parser_agree he).mapError _).bind fun _ _ hp =>
      Command.applying_agree (Application.perform_like hs hp a limit)

namespace Parser

theorem Twin.indistinct [CharNames] {p p' : Parser} (h : p.Twin p') : p.Indistinct p' where
  name_eq := h.name_eq
  isForward_eq := h.isForward_eq
  invoke_eq s tracing limit t := (Store.Twin.refl s).invoke_eq h tracing limit t

end Parser

namespace Store

-- A string stands for its symbol wherever a parser is wanted. With the symbol in its place an expression is
-- refused as before, or comes to a parser that nothing tells apart from the former one; and so do grammars
-- with their rules, and sessions command by command, answer as before in everything they say. Repetitions of
-- parsers that lengthen their text are cut off by the same bound on rounds before and after.
theorem literals_uniform [CharNames] :
    (∀ (s : Store) (e e' : Expr), e.Coerced e' →
      Agree (Item.Related Parser.Indistinct) (s.build e) (s.build e')) ∧
    (∀ (s : Store) (e e' : Expr), e.Placed e' →
      Agree Parser.Indistinct (s.parser e) (s.parser e')) ∧
    (∀ (limit : Nat) (rules rules' : List (String × Expr)) (e e' : Expr) (a : Application),
      RulesCoerced rules rules' → e.Placed e' →
        Agree (Reply.Like Parser.Indistinct) (applyGrammar limit rules e a)
          (applyGrammar limit rules' e' a)) ∧
    (∀ (limit : Nat) (s : Store) (cs cs' : List Command), List.Forall₂ Command.Coerced cs cs' →
      List.Forall₂ (Agree (Reply.Like Parser.Indistinct)) (Command.steps limit s cs).2
        (Command.steps limit s cs').2) := by
  have htwin : ∀ p p', Parser.Twin p p' → p.Indistinct p' := fun _ _ h => h.indistinct
  refine ⟨?_, ?_, ?_, ?_⟩
  · intro s e e' he
    exact ((Twin.refl s).build_agree he).mono fun _ _ hitem => hitem.mono htwin
  · intro s e e' he
    exact ((Twin.refl s).parser_agree he).mono htwin
  · intro limit rules rules' e e' a hrules he
    exact (applyGrammar_agree hrules he limit a).mono fun _ _ hreply => hreply.mono htwin
  · intro limit s cs cs' hcs
    exact (Command.steps_agree (Twin.refl s) hcs limit).imp fun _ _ hagree =>
      hagree.mono fun _ _ hreply => hreply.mono htwin

-- Brackets in brackets. What stands behind the opening one is built on call, and refers to the rule itself.
def nestExpr (opening closing : Expr) : Expr :=
  .bind opening (.rebuilt (.sequence [.unary .maybe (.ref "nest"), closing] .all))

def nestStrings : Expr :=
  nestExpr (.plain (.text "[")) (.plain (.text "]"))

def nestSymbols : Expr :=
  nestExpr (.symbol (.text "[")) (.symbol (.text "]"))

theorem nest_coerced : nestStrings.Coerced nestSymbols := by
  have hinner : (Expr.unary .maybe (.ref "nest")).Placed (.unary .maybe (.ref "nest")) :=
    .coerced (.refl _)
  exact .bind (.literal (by decide))
    (.rebuilt (.sequence .all (.cons hinner (.cons (.literal (by decide)) .nil))))

-- Two brackets in each other, parsed with a record of every invocation.
def nestTwice : Application where
  text := [(['['], 2), ([']'], 2)]
  mode := .parse .standard
  tracing := true

attribute [local instance] CharNames.nameless

theorem literals_uniform_nest :
    (∃ p p', empty.build nestStrings = .ok (.parser p) ∧ empty.build nestSymbols = .ok (.parser p') ∧
      p.Indistinct p') ∧
    (∃ p, empty.parser (.symbol (.text "[")) = .ok p ∧ (Parser.symbol ['[']).Indistinct p) ∧
    (∃ log, applyGrammar 30 [("nest", nestStrings)] (.ref "nest") nestTwice =
        .ok (.applied (.parsed (some (.list [.list [.text [']']], .text [']']]))) log) ∧
      applyGrammar 30 [("nest", nestSymbols)] (.ref "nest") nestTwice =
        .ok (.applied (.parsed (some (.list [.list [.text [']']], .text [']']]))) log)) ∧
    List.Forall₂ (Agree (Reply.Like Parser.Indistinct))
      (Command.steps 30 empty [.declare "nest" "nest", .define "nest" nestStrings,
        .define "nest" (.plain (.text "[")), .apply (.ref "nest") nestTwice]).2
      (Command.steps 30 empty [.declare "nest" "nest", .define "nest" nestSymbols,
        .define "nest" (.symbol (.text "[")), .apply (.ref "nest") nestTwice]).2 := by
  obtain ⟨hbuilds, hparsers, hgrammars, hsessions⟩ := literals_uniform
  have hsymbol : (Expr.plain (.text "[")).Placed (.symbol (.text "[")) := .literal (by decide)
  refine ⟨?_, ?_, ?_, ?_⟩
  · have hagree := hbuilds empty _ _ nest_coerced
    obtain ⟨item, hitem, hrelated⟩ := hagree.exists_ok
    cases hrelated with
    | parser hp => exact ⟨_, _, rfl, hitem, hp⟩
  · exact (hparsers empty _ _ hsymbol).exists_ok
  · have hagree := hgrammars 30 [("nest", nestStrings)] [("nest", nestSymbols)] (.ref "nest") (.ref "nest")
      nestTwice (.cons ⟨rfl, .coerced nest_coerced⟩ .nil) (.coerced (.refl _))
    obtain ⟨reply, hreply, hlike⟩ := hagree.exists_ok
    cases hlike with
    | applied log hanswer =>
        cases hanswer with
        | parsed tree => exact ⟨_, rfl, hreply⟩
  · exact hsessions 30 empty _ _ (.cons (.declare "nest" "nest")
      (.cons (.define "nest" (.coerced nest_coerced)) (.cons (.define "nest" hsymbol)
        (.cons (.apply nestTwice (.coerced (.refl _))) .nil))))

end Store

end Descent
