import Descent.Proofs.Editing
import Descent.Proofs.Unlimited

namespace Descent

-- The targets of earlier stages.
def TargetedBefore (target? : Nat → Option Parser) (stage : Nat → Nat) (n slot : Nat) (q : Parser) : Prop :=
  target? slot = some q ∧ stage slot < n

theorem Rule.copied_copied (rule : Rule Parser) : rule.copied.copied = rule.copied := by
  cases rule <;> rfl

theorem Rule.copied_eq_lookUp {rule : Rule Parser} {id : String} :
    rule.copied = .lookUp id ↔ rule = .lookUp id := by
  cases rule <;> simp [Rule.copied]

namespace Parser

-- A placeholder or a copy of it.
def RefersTo (p : Parser) (slot : Nat) (name : String) : Prop :=
  p.rule.copied = .follow slot name

-- The second parser is the first one with references replaced: placeholders by copies, by ids that mean
-- them, and by their targets among those that can be put in place.
inductive Rewired (alike : Expr → Expr → Prop) (lookUp : String → Except Fault Parser)
    (built : Nat → Parser → Prop) : Parser → Parser → Prop
  | alike {p p' : Parser} : p.rule.copied.Like (Rewired alike lookUp built) alike p'.rule.copied →
      Rewired alike lookUp built p p'
  | byId {p p' q : Parser} {slot : Nat} {name id : String} : p.RefersTo slot name →
      p'.rule = .lookUp id → lookUp id = .ok q → q.RefersTo slot name →
        Rewired alike lookUp built p p'
  | inPlace {p p' q : Parser} {slot : Nat} {name : String} : p.RefersTo slot name → built slot q →
      p'.rule.copied = q.rule.copied → Rewired alike lookUp built p p'

variable {alike : Expr → Expr → Prop} {lookUp : String → Except Fault Parser}
  {built : Nat → Parser → Prop} {p p' q q' : Parser}

theorem rule_named_copied (name : Plain) (p : Parser) : (p.named name).rule.copied = p.rule.copied :=
  p.rule.copied_copied

theorem rewired_closed : Parser.Closed (Rewired alike lookUp built) alike :=
  fun _ _ h => .alike h.copied_both

-- Names are no part of it, nor is it whether a placeholder or a copy stands there.
theorem Rewired.of_copied (h : p.Rewired alike lookUp built p') (hq : q.rule.copied = p.rule.copied)
    (hq' : q'.rule.copied = p'.rule.copied) : q.Rewired alike lookUp built q' := by
  cases h with
  | alike hrule => exact .alike (hq ▸ hq' ▸ hrule)
  | byId hp hp' hid htarget =>
      exact .byId (hq.trans hp) (Rule.copied_eq_lookUp.mp (hq'.trans (Rule.copied_eq_lookUp.mpr hp'))) hid
        htarget
  | inPlace hp hbuilt hp' => exact .inPlace (hq.trans hp) hbuilt (hq'.trans hp')

theorem rewired_congruent (h : ∀ e, alike e e) : Parser.Congruent (Rewired alike lookUp built) alike where
  closed := rewired_closed
  inserted _ p' name hp := hp.of_copied rfl (rule_named_copied name p')
  named p p' name hp := hp.of_copied (rule_named_copied name p) (rule_named_copied name p')
  same := h

variable {env : Env} {limit : Nat} {slot : Nat} {name id : String} {t : Text}

theorem outcome_of_copied (h : p.rule.copied = q.rule.copied) (env : Env) (limit : Nat) (t : Text) :
    (p.invoke env limit t).outcome = (q.invoke env limit t).outcome := by
  cases limit with
  | zero => rfl
  | succ limit =>
      rw [invoke_succ, invoke_succ, outcome_noted, outcome_noted, ← Rule.perform_copied, h,
        Rule.perform_copied]

theorem RefersTo.outcome_eq (h : p.RefersTo slot name) (env : Env) (limit : Nat) (t : Text) :
    (p.invoke env (limit + 1) t).outcome =
      (Rule.runTarget (invoke env limit) env slot name t).outcome := by
  rw [invoke_succ, outcome_noted, ← Rule.perform_copied, h]
  rfl

theorem RefersTo.outcome_target (h : p.RefersTo slot name) (hslot : env.target? slot = some q)
    (limit : Nat) (t : Text) :
    (p.invoke env (limit + 1) t).outcome = (q.invoke env limit t).outcome := by
  rw [h.outcome_eq, Rule.runTarget, hslot]

theorem outcome_lookUp (hp : p.rule = .lookUp id) (hid : env.lookUp id = .ok q) (limit : Nat) (t : Text) :
    (p.invoke env (limit + 1) t).outcome = (q.invoke env limit t).outcome := by
  rw [invoke_succ, outcome_noted, hp, Rule.perform, hid]
  rfl

-- Replaced as it can be done at a stage in given surroundings.
abbrev RewiredAt (alike : Expr → Expr → Prop) (stage : Nat → Nat) (env : Env) (n : Nat) :
    Parser → Parser → Prop :=
  Rewired alike env.lookUp (TargetedBefore env.target? stage n)

end Parser

open Descent.Parser (RewiredAt)

-- Surroundings with references replaced in everything that rules refer to, in each target as it can be done
-- at its own stage.
structure Env.Rewired (alike : Expr → Expr → Prop) (stage : Nat → Nat) (count : Nat) (env env' : Env) :
    Prop where
  bounded : ∀ slot, stage slot ≤ count
  targets : ∀ slot,
    Option.Rel (RewiredAt alike stage env' (stage slot)) (env.target? slot) (env'.target? slot)
  ids : ∀ id, Agree (RewiredAt alike stage env' count) (env.lookUp id) (env'.lookUp id)
  builds : ∀ e e', alike e e' → Agree (RewiredAt alike stage env' count) (env.build e) (env'.build e')

section

variable {alike : Expr → Expr → Prop} {stage : Nat → Nat} {count : Nat} {env env' : Env} {p p' : Parser}

-- Anywhere in a grammar, at one stage or another.
def Parser.RewiredUpTo (alike : Expr → Expr → Prop) (stage : Nat → Nat) (env : Env) (count : Nat)
    (p p' : Parser) : Prop :=
  ∃ n ≤ count, RewiredAt alike stage env n p p'

theorem Env.Rewired.related (henv : env.Rewired alike stage count env') :
    env.Related (Parser.RewiredUpTo alike stage env' count) alike env' where
  targets slot := by
    have hslot := henv.targets slot
    generalize env.target? slot = target, env'.target? slot = target' at hslot
    cases hslot with
    | none => exact .none
    | some hp => exact .some ⟨stage slot, henv.bounded slot, hp⟩
  ids id := (henv.ids id).mono fun _ _ hp => ⟨count, Nat.le_refl _, hp⟩
  builds e e' he := (henv.builds e e' he).mono fun _ _ hp => ⟨count, Nat.le_refl _, hp⟩

theorem Env.Rewired.exists_target (henv : env.Rewired alike stage count env') {slot : Nat} {q : Parser}
    (hslot : env'.target? slot = some q) :
    ∃ r, env.target? slot = some r ∧ RewiredAt alike stage env' (stage slot) r q := by
  have htarget := henv.targets slot
  rw [hslot] at htarget
  generalize env.target? slot = target at htarget
  cases htarget with
  | some hr => exact ⟨_, rfl, hr⟩

namespace Parser

theorem foretells_of_perform {limit higher : Nat} {t : Text}
    (h : (Rule.perform (invoke env limit) env p.rule.copied t).Foretells
      (Rule.perform (invoke env' higher) env' p'.rule.copied t)) :
    (p.invoke env (limit + 1) t).Foretells (p'.invoke env' (higher + 1) t) := by
  rw [Rule.perform_copied, Rule.perform_copied] at h
  refine Run.Foretells.trans (.of_outcome_eq ?_) (h.trans (.of_outcome_eq ?_))
  · rw [invoke_succ, outcome_noted]
  · rw [invoke_succ, outcome_noted]

-- An id costs one level more than a placeholder, so that twice the levels are enough.
theorem RewiredUpTo.foretells (henv : env.Rewired alike stage count env') (limit : Nat)
    (h : RewiredUpTo alike stage env' count p p') (t : Text) :
    (p.invoke env limit t).Foretells (p'.invoke env' (2 * limit) t) := by
  induction limit generalizing p p' t with
  | zero => exact fun hcut => absurd rfl hcut
  | succ limit ih =>
      have hcompares : Rule.Compares @Run.Foretells (RewiredUpTo alike stage env' count)
          (invoke env limit) (invoke env' (2 * limit)) := fun q q' hq u => ih hq u
      have hlevels : 2 * (limit + 1) = 2 * limit + 1 + 1 := by omega
      rw [hlevels]
      obtain ⟨n, hn, h⟩ := h
      cases h with
      | alike hrule =>
          refine foretells_of_perform (Rule.perform_compares Run.foretells_stepwise henv.related
            (hrule.mono fun _ _ hq => ⟨n, hn, hq⟩) fun q q' hq u => ?_)
          exact (hcompares q q' hq u).trans (invoke_foretells (Nat.le_succ _) q' u)
      | @byId _ _ q slot name id hp hp' hid hq =>
          have htarget : (Rule.runTarget (invoke env limit) env slot name t).Foretells
              (Rule.runTarget (invoke env' (2 * limit)) env' slot name t) :=
            Rule.runTarget_compares Run.foretells_stepwise hcompares (henv.related.targets slot)
          refine Run.Foretells.trans (.of_outcome_eq (hp.outcome_eq env limit t))
            (htarget.trans (.of_outcome_eq ?_))
          rw [← hq.outcome_eq, outcome_lookUp hp' hid]
      | @inPlace _ _ q slot name hp hbuilt hp' =>
          obtain ⟨r, hr, hrq⟩ := henv.exists_target hbuilt.1
          have htarget := hcompares r q ⟨stage slot, henv.bounded slot, hrq⟩ t
          refine Run.Foretells.trans (.of_outcome_eq (hp.outcome_target hr limit t))
            (htarget.trans ((invoke_foretells (Nat.le_add_right _ 2) q t).trans (.of_outcome_eq ?_)))
          exact (outcome_of_copied hp' env' _ t).symm

-- A target in place saves one level, and may hold another one in place, which was there before it; at
-- most as many in a row as there are stages.
theorem RewiredAt.foretold (henv : env.Rewired alike stage count env') (limit n : Nat) (hn : n ≤ count)
    (h : RewiredAt alike stage env' n p p') (t : Text) :
    (p'.invoke env' limit t).Foretells (p.invoke env (limit * (count + 1) + n) t) := by
  induction limit generalizing n p p' t with
  | zero => exact fun hcut => absurd rfl hcut
  | succ limit ih =>
      have hlevels : ∀ n, (limit + 1) * (count + 1) + n = limit * (count + 1) + count + n + 1 := by
        intro n
        rw [Nat.succ_mul]
        omega
      induction n using Nat.strongRecOn generalizing p p' t with
      | ind n ihn =>
          cases h with
          | alike hrule =>
              have hcompares : Rule.Compares (fun x y => y.Foretells x) (RewiredUpTo alike stage env' count)
                  (invoke env (limit * (count + 1) + count + n)) (invoke env' limit) := by
                rintro q q' ⟨m, hm, hq⟩ u
                exact (ih m hm hq u).trans (invoke_foretells (by omega) q u)
              have hparts := hrule.mono fun _ _ hq => (⟨n, hn, hq⟩ : RewiredUpTo alike stage env' count _ _)
              have hperform := Rule.perform_compares (t := t) Run.foretold_stepwise henv.related hparts
                hcompares
              rw [hlevels]
              exact foretells_of_perform hperform
          | @byId _ _ q slot name id hp hp' hid hq =>
              have hpq : RewiredAt alike stage env' n p q := by
                refine .alike ?_
                rw [show p.rule.copied = .follow slot name from hp,
                  show q.rule.copied = .follow slot name from hq]
                exact .own rfl
              rw [hlevels]
              refine Run.Foretells.trans (.of_outcome_eq (outcome_lookUp hp' hid limit t))
                ((ih n hn hpq t).trans (invoke_foretells (by omega) p t))
          | @inPlace _ _ q slot name hp hbuilt hp' =>
              obtain ⟨hslot, hstage⟩ := hbuilt
              obtain ⟨r, hr, hrq⟩ := henv.exists_target hslot
              have htarget := ihn (stage slot) hstage (henv.bounded slot) hrq t
              refine Run.Foretells.trans (.of_outcome_eq (outcome_of_copied hp' env' _ t)) (htarget.trans ?_)
              refine Run.Foretells.trans (.of_outcome_eq (hp.outcome_target hr _ t).symm) ?_
              exact invoke_foretells (by omega) p t

theorem RewiredAt.exists_comesTo (henv : env.Rewired alike stage count env') {n : Nat} (hn : n ≤ count)
    (h : RewiredAt alike stage env' n p p') (t : Text) :
    ∃ o, p.ComesTo env t o ∧ p'.ComesTo env' t o :=
  exists_comesTo_both (fun limit => ⟨_, RewiredUpTo.foretells henv limit ⟨n, hn, h⟩ t⟩)
    fun limit => ⟨_, h.foretold henv limit n hn t⟩

end Parser

end

end Descent
