import Descent.Proofs.Reach
import Mathlib.Data.List.Forall2

namespace Descent

-- Two constructions that end alike: stopped by the same fault, or with things that are related.
inductive Agree {ε α β : Type} (related : α → β → Prop) : Except ε α → Except ε β → Prop
  | ok {a : α} {b : β} : related a b → Agree related (.ok a) (.ok b)
  | error (e : ε) : Agree related (.error e) (.error e)

namespace Agree

variable {ε α β γ δ : Type} {related : α → β → Prop} {next : γ → δ → Prop} {x : Except ε α}
  {y : Except ε β}

theorem refl {same : α → α → Prop} (h : ∀ a, same a a) (x : Except ε α) : Agree same x x := by
  cases x with
  | error e => exact .error e
  | ok a => exact .ok (h a)

theorem bind {f : α → Except ε γ} {g : β → Except ε δ} (h : Agree related x y)
    (hf : ∀ a b, related a b → Agree next (f a) (g b)) : Agree next (x >>= f) (y >>= g) := by
  cases h with
  | ok hab => exact hf _ _ hab
  | error e => exact .error e

theorem map {f : α → γ} {g : β → δ} (h : Agree related x y)
    (hf : ∀ a b, related a b → next (f a) (g b)) : Agree next (x.map f) (y.map g) := by
  cases h with
  | ok hab => exact .ok (hf _ _ hab)
  | error e => exact .error e

theorem mono {related' : α → β → Prop} (h : Agree related x y)
    (himp : ∀ a b, related a b → related' a b) : Agree related' x y := by
  cases h with
  | ok hab => exact .ok (himp _ _ hab)
  | error e => exact .error e

theorem mapM {f : α → Except ε γ} {g : β → Except ε δ} {as : List α} {bs : List β}
    (h : List.Forall₂ related as bs) (hf : ∀ a b, related a b → Agree next (f a) (g b)) :
    Agree (List.Forall₂ next) (as.mapM f) (bs.mapM g) := by
  induction h with
  | nil => exact .ok .nil
  | cons hab _ ih =>
      rw [List.mapM_cons, List.mapM_cons]
      exact (hf _ _ hab).bind fun _ _ hcd => ih.bind fun _ _ hcds => .ok (.cons hcd hcds)

theorem mapError {ε' : Type} (h : Agree related x y) (f : ε → ε') :
    Agree related (x.mapError f) (y.mapError f) := by
  cases h with
  | ok hab => exact .ok hab
  | error e => exact .error (f e)

theorem exists_ok {a : α} (h : Agree related (.ok a) y) : ∃ b, y = .ok b ∧ related a b := by
  cases h with
  | ok hab => exact ⟨_, rfl, hab⟩

end Agree

theorem rel_refl {α : Type} {same : α → α → Prop} (h : ∀ a, same a a) (x : Option α) :
    Option.Rel same x x := by
  cases x with
  | none => exact .none
  | some a => exact .some (h a)

-- Answers of continuations that differ in names only. Of expressions that are built on call it is asked
-- elsewhere what becomes of them.
inductive Next.Like (similar : Parser → Parser → Prop) (alike : Expr → Expr → Prop) :
    Next Parser → Next Parser → Prop
  | parser {p p' : Parser} : similar p p' → Like similar alike (.parser p) (.parser p')
  | fault (f : Fault) : Like similar alike (.fault f) (.fault f)
  | build {e e' : Expr} : alike e e' → Like similar alike (.build e) (.build e')

-- Rules that differ in the names of their parts only. A placeholder under another name is a copy of it.
inductive Rule.Like (similar : Parser → Parser → Prop) (alike : Expr → Expr → Prop) :
    Rule Parser → Rule Parser → Prop
  | own {rule : Rule Parser} : rule.parts = [] → Like similar alike rule rule
  | copied (slot : Nat) (name : String) : Like similar alike (.forward slot name) (.follow slot name)
  | sequence {items items' : List Parser} (reducer : Reducer) :
      List.Forall₂ similar items items' →
        Like similar alike (.sequence items reducer) (.sequence items' reducer)
  | choice {ps ps' : List Parser} :
      List.Forall₂ similar ps ps' → Like similar alike (.choice ps) (.choice ps')
  | attempt {p p' : Parser} : similar p p' → Like similar alike (.attempt p) (.attempt p')
  | maybe {p p' : Parser} : similar p p' → Like similar alike (.maybe p) (.maybe p')
  | many {p p' : Parser} : similar p p' → Like similar alike (.many p) (.many p')
  | many1 {p p' : Parser} : similar p p' → Like similar alike (.many1 p) (.many1 p')
  | sepBy {element element' following following' : Parser} :
      similar element element' → similar following following' →
        Like similar alike (.sepBy element following) (.sepBy element' following')
  | label {p p' : Parser} (name : String) :
      similar p p' → Like similar alike (.label name p) (.label name p')
  | lexeme {p p' : Parser} : similar p p' → Like similar alike (.lexeme p) (.lexeme p')
  | bind {first first' : Parser} {next next' : Match → Next Parser} :
      similar first first' → (∀ m, (next m).Like similar alike (next' m)) →
        Like similar alike (.bind first next) (.bind first' next')

-- Surroundings with related answers to whatever rules ask them.
structure Env.Related (similar : Parser → Parser → Prop) (alike : Expr → Expr → Prop)
    (env env' : Env) : Prop where
  targets : ∀ slot, Option.Rel similar (env.target? slot) (env'.target? slot)
  ids : ∀ id, Agree similar (env.lookUp id) (env'.lookUp id)
  builds : ∀ e e', alike e e' → Agree similar (env.build e) (env'.build e')

section

variable {similar similar' : Parser → Parser → Prop} {alike : Expr → Expr → Prop}

theorem Next.Like.mono {next next' : Next Parser} (h : next.Like similar alike next')
    (himp : ∀ p p', similar p p' → similar' p p') : next.Like similar' alike next' := by
  cases h with
  | parser hp => exact .parser (himp _ _ hp)
  | fault f => exact .fault f
  | build he => exact .build he

theorem Rule.Like.mono {rule rule' : Rule Parser} (h : rule.Like similar alike rule')
    (himp : ∀ p p', similar p p' → similar' p p') : rule.Like similar' alike rule' := by
  cases h with
  | own hparts => exact .own hparts
  | copied slot name => exact .copied slot name
  | sequence reducer hitems => exact .sequence reducer (hitems.imp himp)
  | choice hps => exact .choice (hps.imp himp)
  | attempt hp => exact .attempt (himp _ _ hp)
  | maybe hp => exact .maybe (himp _ _ hp)
  | many hp => exact .many (himp _ _ hp)
  | many1 hp => exact .many1 (himp _ _ hp)
  | sepBy helement hfollowing => exact .sepBy (himp _ _ helement) (himp _ _ hfollowing)
  | label name hp => exact .label name (himp _ _ hp)
  | lexeme hp => exact .lexeme (himp _ _ hp)
  | bind hfirst hnext => exact .bind (himp _ _ hfirst) fun m => (hnext m).mono himp

theorem Rule.Like.functionName_eq {rule rule' : Rule Parser} (h : rule.Like similar alike rule') :
    rule.functionName = rule'.functionName := by
  cases h <;> rfl

-- A relation on parsers that holds where their rules are of one shape and have related parts.
def Parser.Closed (similar : Parser → Parser → Prop) (alike : Expr → Expr → Prop) : Prop :=
  ∀ p p' : Parser, p.rule.Like similar alike p'.rule → similar p p'

mutual

-- What holds of a parser and itself as soon as its rule has parts of which it holds, holds of every parser.
theorem Parser.refl_of_parts (hself : ∀ p : Parser, p.rule.Like similar alike p.rule → similar p p)
    (h : ∀ e, alike e e) (p : Parser) : similar p p := by
  match p with
  | ⟨name, rule⟩ => exact hself _ (Rule.refl_of_parts hself h rule)

theorem Parser.forall₂_of_parts (hself : ∀ p : Parser, p.rule.Like similar alike p.rule → similar p p)
    (h : ∀ e, alike e e) (ps : List Parser) : List.Forall₂ similar ps ps := by
  match ps with
  | [] => exact .nil
  | p :: ps => exact .cons (Parser.refl_of_parts hself h p) (Parser.forall₂_of_parts hself h ps)

theorem Rule.refl_of_parts (hself : ∀ p : Parser, p.rule.Like similar alike p.rule → similar p p)
    (h : ∀ e, alike e e) (rule : Rule Parser) : rule.Like similar alike rule := by
  match rule with
  | .sequence items reducer => exact .sequence reducer (Parser.forall₂_of_parts hself h items)
  | .choice alternatives => exact .choice (Parser.forall₂_of_parts hself h alternatives)
  | .attempt p => exact .attempt (Parser.refl_of_parts hself h p)
  | .maybe p => exact .maybe (Parser.refl_of_parts hself h p)
  | .many p => exact .many (Parser.refl_of_parts hself h p)
  | .many1 p => exact .many1 (Parser.refl_of_parts hself h p)
  | .sepBy element following =>
      exact .sepBy (Parser.refl_of_parts hself h element) (Parser.refl_of_parts hself h following)
  | .label name p => exact .label name (Parser.refl_of_parts hself h p)
  | .lexeme p => exact .lexeme (Parser.refl_of_parts hself h p)
  | .bind first next =>
      exact .bind (Parser.refl_of_parts hself h first) fun m => Next.refl_of_parts hself h (next m)
  | .char _ | .pattern _ _ | .symbol _ | .whiteSpace | .succeed _ | .forward _ _ | .follow _ _
  | .lookUp _ | .custom _ => exact .own rfl

theorem Next.refl_of_parts (hself : ∀ p : Parser, p.rule.Like similar alike p.rule → similar p p)
    (h : ∀ e, alike e e) (next : Next Parser) : next.Like similar alike next := by
  match next with
  | .parser p => exact .parser (Parser.refl_of_parts hself h p)
  | .fault f => exact .fault f
  | .build e => exact .build (h e)

end

-- Such a relation holds of every parser and itself.
theorem Parser.Closed.refl (hclosed : Parser.Closed similar alike) (h : ∀ e, alike e e) (p : Parser) :
    similar p p :=
  Parser.refl_of_parts (fun p => hclosed p p) h p

theorem Rule.like_self (hsimilar : ∀ p, similar p p) (h : ∀ e, alike e e) (rule : Rule Parser) :
    rule.Like similar alike rule :=
  Rule.refl_of_parts (fun p _ => hsimilar p) h rule

theorem Next.Like.refl (hsimilar : ∀ p, similar p p) (h : ∀ e, alike e e) (next : Next Parser) :
    next.Like similar alike next :=
  Next.refl_of_parts (fun p _ => hsimilar p) h next

theorem Rule.copied_cases (rule : Rule Parser) :
    rule.copied = rule ∨ ∃ slot name, rule = .forward slot name := by
  cases rule <;> simp [Rule.copied]

theorem Rule.Like.copied_right {rule rule' : Rule Parser} (h : rule.Like similar alike rule') :
    rule.Like similar alike rule'.copied := by
  rcases rule'.copied_cases with hsame | ⟨slot, name, rfl⟩
  · rwa [hsame]
  · cases h with
    | own _ => exact .copied slot name

theorem Rule.Like.copied_both {rule rule' : Rule Parser} (h : rule.Like similar alike rule') :
    rule.copied.Like similar alike rule'.copied := by
  rcases rule.copied_cases with hsame | ⟨slot, name, rfl⟩
  · rw [hsame]
    exact h.copied_right
  · cases h with
    | own _ => exact .own rfl
    | copied _ _ => exact .own rfl

end

-- A comparison of runs that holds of every run and itself, and of whole runs if it holds at each step.
structure Run.Stepwise (compared : ∀ {α : Type}, Run α → Run α → Prop) : Prop where
  refl : ∀ {α : Type} (x : Run α), compared x x
  bind : ∀ {α β : Type} {x y : Run α} {f g : α → Run β}, compared x y →
    (∀ a, compared (f a) (g a)) → compared (x >>= f) (y >>= g)

namespace Rule

variable {compared : ∀ {α : Type}, Run α → Run α → Prop} {similar : Parser → Parser → Prop}
  {alike : Expr → Expr → Prop} {invoke invoke' : Invocation} {env env' : Env} {t : Text}

-- What comes of two ways of invoking compares for related parsers.
def Compares (compared : ∀ {α : Type}, Run α → Run α → Prop) (similar : Parser → Parser → Prop)
    (invoke invoke' : Invocation) : Prop :=
  ∀ p p', similar p p' → ∀ t, compared (invoke p t) (invoke' p' t)

section

variable (hcompared : Run.Stepwise @compared) (h : Compares @compared similar invoke invoke')

include hcompared h

theorem runAll_compares {ps ps' : List Parser} (hps : List.Forall₂ similar ps ps') :
    compared (runAll invoke ps t) (runAll invoke' ps' t) := by
  induction hps generalizing t with
  | nil => exact hcompared.refl _
  | cons hp _ ih =>
      refine hcompared.bind (h _ _ hp t) fun r => ?_
      cases r with
      | failed u v => exact hcompared.refl _
      | ok u m => exact hcompared.bind ih fun _ => hcompared.refl _

theorem runFirst_compares {ps ps' : List Parser} (hps : List.Forall₂ similar ps ps') :
    compared (runFirst invoke ps t) (runFirst invoke' ps' t) := by
  induction hps with
  | nil => exact hcompared.refl _
  | cons hp _ ih =>
      refine hcompared.bind (h _ _ hp t) fun r => ?_
      cases r with
      | failed u v => exact ih
      | ok u m => exact hcompared.refl _

theorem runRepeated_compares {p p' : Parser} (hp : similar p p') (fuel : Nat) :
    compared (runRepeated invoke p fuel t) (runRepeated invoke' p' fuel t) := by
  induction fuel generalizing t with
  | zero => exact hcompared.refl _
  | succ fuel ih =>
      refine hcompared.bind (h _ _ hp t) fun r => ?_
      cases r with
      | failed u v => exact hcompared.refl _
      | ok u m =>
          by_cases hidle : u = t
          · simp only [hidle, if_true]
            exact hcompared.refl _
          · simp only [hidle, if_false]
            exact hcompared.bind ih fun _ => hcompared.refl _

theorem runTarget_compares {slot : Nat} {name : String}
    (hslot : Option.Rel similar (env.target? slot) (env'.target? slot)) :
    compared (runTarget invoke env slot name t) (runTarget invoke' env' slot name t) := by
  unfold runTarget
  generalize env.target? slot = target, env'.target? slot = target' at hslot
  cases hslot with
  | none => exact hcompared.refl _
  | some hp => exact h _ _ hp t

omit h in
theorem lift_bind_compares {x y : Except Fault Parser} {f g : Parser → Run Result}
    (hxy : Agree similar x y) (hfg : ∀ p p', similar p p' → compared (f p) (g p')) :
    compared (Run.lift x >>= f) (Run.lift y >>= g) := by
  cases hxy with
  | error e => exact hcompared.refl _
  | ok hp => exact hfg _ _ hp

end

theorem chosen_agree {n n' : Next Parser} (henv : env.Related similar alike env')
    (hn : n.Like similar alike n') : Agree similar (chosen env n) (chosen env' n') := by
  cases hn with
  | parser hp => exact .ok hp
  | fault f => exact .error f
  | build he => exact henv.builds _ _ he

theorem perform_compares {rule rule' : Rule Parser} (hcompared : Run.Stepwise @compared)
    (henv : env.Related similar alike env') (hrule : rule.Like similar alike rule')
    (h : Compares @compared similar invoke invoke') :
    compared (perform invoke env rule t) (perform invoke' env' rule' t) := by
  cases hrule with
  | own hparts =>
      cases rule with
      | forward slot name | follow slot name =>
          exact runTarget_compares hcompared h (henv.targets slot)
      | lookUp id => exact lift_bind_compares hcompared (henv.ids id) fun p p' hp => h p p' hp t
      | sequence items reducer =>
          obtain rfl : items = [] := hparts
          exact hcompared.refl _
      | choice alternatives =>
          obtain rfl : alternatives = [] := hparts
          exact hcompared.refl _
      | char _ | pattern _ _ | symbol _ | whiteSpace | succeed _ | custom _ => exact hcompared.refl _
      | _ => cases hparts
  | copied slot name => exact runTarget_compares hcompared h (henv.targets slot)
  | sequence reducer hitems =>
      exact hcompared.bind (runAll_compares hcompared h hitems) fun _ => hcompared.refl _
  | choice hps => exact runFirst_compares hcompared h hps
  | attempt hp | maybe hp | label _ hp | lexeme hp =>
      exact hcompared.bind (h _ _ hp t) fun _ => hcompared.refl _
  | many hp | many1 hp =>
      exact hcompared.bind (runRepeated_compares hcompared h hp _) fun _ => hcompared.refl _
  | sepBy helement hfollowing =>
      refine hcompared.bind (h _ _ helement t) fun r => ?_
      cases r with
      | failed u v => exact hcompared.refl _
      | ok u m =>
          by_cases hidle : u = t
          · simp only [hidle, if_true]
            exact hcompared.refl _
          · simp only [hidle, if_false]
            exact hcompared.bind (runRepeated_compares hcompared h hfollowing _)
              fun _ => hcompared.refl _
  | bind hfirst hnext =>
      refine hcompared.bind (h _ _ hfirst t) fun r => ?_
      cases r with
      | failed u v => exact hcompared.refl _
      | ok u m =>
          refine lift_bind_compares hcompared (chosen_agree henv (hnext m)) fun p p' hp => ?_
          exact hcompared.bind (h p p' hp u) fun _ => hcompared.refl _

end Rule

end Descent
