import Descent.Proofs.Chaining
import Descent.Proofs.Construction
import Descent.Proofs.Leaves
import Descent.Proofs.Likeness
import Descent.Proofs.Meaning

namespace Descent

-- Two results that tell the same story about a text, with the leaves of their matches grouped as it may be.
structure Result.SameLeaves (r s : Result) : Prop where
  succeeded : r.succeeded = s.succeeded
  rest : r.rest = s.rest
  leaves : r.value.leaves = s.value.leaves

theorem Result.SameLeaves.refl (r : Result) : r.SameLeaves r :=
  ⟨rfl, rfl, rfl⟩

-- The same of what comes of several parsers one after another.
def SameTaken (o o' : Option (Text × List Match)) : Prop :=
  Option.Rel (fun a b => a.1 = b.1 ∧ a.2.flatMap Match.leaves = b.2.flatMap Match.leaves) o o'

theorem SameTaken.refl (o : Option (Text × List Match)) : SameTaken o o :=
  rel_refl (fun _ => ⟨rfl, rfl⟩) o

-- Alternatives joined by bars, in any grouping.
inductive Bars where
  | one (p : Parser)
  | bar (left right : Bars)

namespace Bars

def alternatives : Bars → List Parser
  | one p => [p]
  | bar left right => left.alternatives ++ right.alternatives

def item : Bars → Except Fault Item
  | one p => .ok (.parser p)
  | bar left right => do
      let a ← left.item
      let b ← right.item
      Parser.either? a b

-- Each bar is a choice of two.
def joined : Bars → Parser
  | one p => p
  | bar left right => Parser.choice [left.joined, right.joined]

theorem either?_parsers (p q : Parser) :
    Parser.either? (.parser p) (.parser q) =
      (Parser.checkNames 0 [p, q]).map fun _ => .parser (Parser.choice [p, q]) := by
  change (Parser.checkNames 0 [p, q] >>= fun _ => .ok (Parser.choice [p, q])).map Item.parser = _
  cases Parser.checkNames 0 [p, q] <;> rfl

theorem either?_eq_ok {p q : Parser} :
    Parser.either? (.parser p) (.parser q) = .ok (.parser (Parser.choice [p, q])) ↔
      p.Joinable ∧ q.Joinable := by
  have hnames : Parser.checkNames 0 [p, q] = .ok () ↔ p.Joinable ∧ q.Joinable := by
    rw [Parser.checkNames_eq_ok]
    simp
  rw [either?_parsers, ← hnames]
  cases Parser.checkNames 0 [p, q] <;> simp [Except.map]

theorem item_yields (b : Bars) : Yields (· = .parser b.joined) b.item := by
  induction b with
  | one p => exact .ok rfl
  | bar left right ihl ihr =>
      refine ihl.bind fun _ hl => ihr.bind fun _ hr => ?_
      rw [hl, hr, either?_parsers]
      exact (Yields.any _).map fun _ _ => rfl

theorem item_bar_eq_ok {left right : Bars} :
    (left.bar right).item = .ok (.parser (left.bar right).joined) ↔
      (left.item = .ok (.parser left.joined) ∧ left.joined.Joinable) ∧
        right.item = .ok (.parser right.joined) ∧ right.joined.Joinable := by
  rw [item]
  cases hleft : left.item with
  | error e => simp [bind, Except.bind]
  | ok a =>
      obtain rfl := left.item_yields a hleft
      cases hright : right.item with
      | error e => simp [bind, Except.bind]
      | ok b =>
          obtain rfl := right.item_yields b hright
          change Parser.either? (.parser left.joined) (.parser right.joined) =
            .ok (.parser (Parser.choice [left.joined, right.joined])) ↔ _
          rw [either?_eq_ok]
          simp

-- A bar joins the names on its two sides, and the name of what it makes is a text again.
theorem item_eq_ok_and_joinable {b : Bars} :
    b.item = .ok (.parser b.joined) ∧ b.joined.Joinable ↔ ∀ p ∈ b.alternatives, p.Joinable := by
  induction b with
  | one p => simp [item, joined, alternatives]
  | bar left right ihl ihr =>
      rw [alternatives, List.forall_mem_append, ← ihl, ← ihr, item_bar_eq_ok]
      exact and_iff_left (Parser.joinable_choice _)

theorem item_eq_ok {left right : Bars} :
    (left.bar right).item = .ok (.parser (left.bar right).joined) ↔
      ∀ p ∈ (left.bar right).alternatives, p.Joinable := by
  rw [← item_eq_ok_and_joinable]
  exact (and_iff_left (Parser.joinable_choice _)).symm

end Bars

-- What comes of parsers where no limit cuts them off: the first success on a text, and one after another.
noncomputable def Env.first (env : Env) (ps : List Parser) (t : Text) : Except Fault Result :=
  (Rule.runFirst env.unlimited ps t).outcome

noncomputable def Env.all (env : Env) (ps : List Parser) (t : Text) :
    Except Fault (Option (Text × List Match)) :=
  (Rule.runAll env.unlimited ps t).outcome

-- Behind a failure comes something else.
def orElse (other : Except Fault Result) : Result → Except Fault Result
  | .ok u m => .ok (.ok u m)
  | .failed _ _ => other

-- Behind some matches come more of them.
def onward (more : Text → Except Fault (Option (Text × List Match))) :
    Option (Text × List Match) → Except Fault (Option (Text × List Match))
  | none => .ok none
  | some (u, ms) => Option.map (fun (last, ns) => (last, ms ++ ns)) <$> more u

def taken : Result → Option (Text × List Match)
  | .ok u m => some (u, [m])
  | .failed _ _ => none

namespace Parser

variable {env : Env} {p q : Parser} {ps qs xs ys zs : List Parser} {t u : Text} {ms : List Match}

theorem first_cons : env.first (p :: ps) t = p.meaning env t >>= orElse (env.first ps t) := by
  rw [Env.first, Rule.runFirst, Run.outcome_bind]
  refine bind_congr fun r => ?_
  cases r <;> rfl

theorem first_append (xs ys : List Parser) :
    env.first (xs ++ ys) t = env.first xs t >>= orElse (env.first ys t) := by
  induction xs with
  | nil => rfl
  | cons p xs ih =>
      rw [List.cons_append, first_cons, first_cons, bind_assoc, ih]
      refine bind_congr fun r => ?_
      cases r <;> rfl

theorem first_singleton : env.first [p] t = p.meaning env t >>= orElse (.ok (.fail t)) :=
  first_cons

theorem meaning_choice : (choice ps).meaning env t = env.first ps t :=
  meaning_eq env (choice ps) t

-- A failure of alternatives leaves the text as it is, so that a choice is as good as its alternatives.
theorem first_choice : env.first [choice ps] t = env.first ps t := by
  rw [first_singleton, meaning_choice]
  have hnone : env.first (ps ++ []) t = env.first ps t >>= orElse (.ok (.fail t)) := first_append ps []
  rw [← hnone, List.append_nil]

theorem meaning_choice_grouped :
    (choice (xs ++ [choice ys] ++ zs)).meaning env t = (choice (xs ++ ys ++ zs)).meaning env t := by
  have hgrouped : env.first (xs ++ [choice ys]) t = env.first (xs ++ ys) t := by
    rw [first_append, first_append, first_choice]
  have hbehind : ∀ as, env.first (as ++ zs) t = env.first as t >>= orElse (env.first zs t) :=
    fun as => first_append as zs
  rw [meaning_choice, meaning_choice, hbehind, hbehind, hgrouped]

theorem all_cons : env.all (p :: ps) t = p.meaning env t >>= fun r => onward (env.all ps) (taken r) := by
  rw [Env.all, Rule.runAll, Run.outcome_bind]
  refine bind_congr fun r => ?_
  cases r with
  | failed u v => rfl
  | ok u m =>
      rw [taken, onward, Run.outcome_bind, ← bind_pure_comp]
      refine bind_congr fun o => ?_
      cases o <;> rfl

theorem onward_onward {more further : Text → Except Fault (Option (Text × List Match))}
    (o : Option (Text × List Match)) :
    onward more o >>= onward further = onward (fun u => more u >>= onward further) o := by
  rcases o with _ | ⟨u, ms⟩
  · rfl
  · rw [onward, onward, bind_map_left, map_bind]
    refine bind_congr fun o => ?_
    rcases o with _ | ⟨last, ns⟩
    · rfl
    · rw [Option.map_some, onward, onward, Functor.map_map]
      refine congrArg (· <$> further last) (funext fun o => ?_)
      cases o <;> simp

theorem all_append (xs ys : List Parser) :
    env.all (xs ++ ys) t = env.all xs t >>= onward (env.all ys) := by
  induction xs generalizing t with
  | nil =>
      have hsame : (Option.map fun a : Text × List Match => (a.1, [] ++ a.2)) = id := by
        funext o
        cases o <;> rfl
      exact ((congrArg (· <$> env.all ys t) hsame).trans (id_map _)).symm
  | cons p xs ih =>
      rw [List.cons_append, all_cons, all_cons, bind_assoc]
      refine bind_congr fun r => ?_
      rw [onward_onward]
      exact congrArg (onward · (taken r)) (funext fun u => ih)

theorem meaning_sequence :
    (sequence ps .all).meaning env t = closing .seq [] t <$> env.all ps t := by
  rw [meaning_eq]
  change (Rule.perform env.unlimited env (.sequence ps .all) t).outcome = _
  rw [Rule.perform, Run.outcome_bind, ← bind_pure_comp]
  refine bind_congr fun o => ?_
  cases o <;> rfl

theorem all_singleton : env.all [p] t = taken <$> p.meaning env t := by
  rw [all_cons, ← bind_pure_comp]
  refine bind_congr fun r => ?_
  cases r <;> rfl

theorem onward_same {more more' : Text → Except Fault (Option (Text × List Match))}
    {o o' : Option (Text × List Match)} (h : SameTaken o o')
    (hmore : ∀ u, Agree SameTaken (more u) (more' u)) :
    Agree SameTaken (onward more o) (onward more' o') := by
  cases h with
  | none => exact .ok .none
  | @some a b hab =>
      obtain ⟨u, ms⟩ := a
      obtain ⟨u', ms'⟩ := b
      obtain ⟨rfl, hleaves⟩ : u = u' ∧ _ := hab
      refine (hmore u).map fun o o' ho => ?_
      cases ho with
      | none => exact .none
      | some hab => exact .some ⟨hab.1, by simp [hleaves, hab.2]⟩

-- A sequence among the items has one match where its own items have many.
theorem sameTaken_closing (t : Text) (o : Option (Text × List Match)) :
    SameTaken (taken (closing .seq [] t o)) o := by
  cases o with
  | none => exact .none
  | some last => exact .some ⟨rfl, by simp⟩

theorem closing_same {o o' : Option (Text × List Match)} (h : SameTaken o o') (t : Text) :
    (closing .seq [] t o).SameLeaves (closing .seq [] t o') := by
  cases h with
  | none => exact .refl _
  | some hab => exact ⟨rfl, hab.1, by simpa [closing, Result.value] using hab.2⟩

theorem all_sequence_grouped :
    Agree SameTaken (env.all (xs ++ [sequence ys .all] ++ zs) t) (env.all (xs ++ ys ++ zs) t) := by
  have hmiddle : ∀ u, Agree SameTaken (env.all [sequence ys .all] u) (env.all ys u) := by
    intro u
    rw [all_singleton, meaning_sequence, Functor.map_map]
    cases env.all ys u with
    | error e => exact .error e
    | ok o => exact .ok (sameTaken_closing u o)
  have hfront : Agree SameTaken (env.all (xs ++ [sequence ys .all]) t) (env.all (xs ++ ys) t) := by
    rw [all_append, all_append]
    exact (Agree.refl .refl _).bind fun _ _ h => onward_same h hmiddle
  have hbehind : ∀ as, env.all (as ++ zs) t = env.all as t >>= onward (env.all zs) :=
    fun as => all_append as zs
  rw [hbehind, hbehind]
  exact hfront.bind fun _ _ h => onward_same h fun _ => .refl .refl _

theorem meaning_sequence_grouped :
    Agree Result.SameLeaves ((sequence (xs ++ [sequence ys .all] ++ zs) .all).meaning env t)
      ((sequence (xs ++ ys ++ zs) .all).meaning env t) := by
  rw [meaning_sequence, meaning_sequence]
  exact all_sequence_grouped.map fun _ _ h => closing_same h t

-- What comes of a beginning and of what follows it, one after the other.
theorem meaning_sequence_append :
    (sequence (ps ++ qs) .all).meaning env t =
      env.all ps t >>= fun o => closing .seq [] t <$> onward (env.all qs) o := by
  rw [meaning_sequence, all_append, map_bind]

theorem closing_onward (t : Text) {more : Text → Except Fault (Option (Text × List Match))} :
    closing .seq [] t <$> onward more (some (u, ms)) = closing .seq ms t <$> more u := by
  rw [onward, Functor.map_map]
  refine congrArg (· <$> more u) (funext fun o => ?_)
  cases o <;> rfl

-- Alternatives behind a beginning that is taken each time, and the beginning with alternatives behind it.
theorem first_behind (h : env.all ps t = .ok (some (u, ms))) (qs : List (List Parser)) :
    Agree Result.SameLeaves (env.first (qs.map fun q => sequence (ps ++ q) .all) t)
      ((fun r => closing .seq ms t (taken r)) <$> env.first (qs.map fun q => sequence q .all) u) := by
  induction qs with
  | nil => exact .ok (.refl _)
  | cons q qs ih =>
      have hq : (sequence (ps ++ q) .all).meaning env t = closing .seq ms t <$> env.all q u := by
        rw [meaning_sequence_append, h]
        exact closing_onward t
      rw [List.map_cons, List.map_cons, first_cons, first_cons, hq, meaning_sequence]
      cases env.all q u with
      | error e => exact .error e
      | ok o =>
          rcases o with _ | ⟨last, ns⟩
          · exact ih
          · exact .ok ⟨rfl, rfl, by simp [closing, taken, Result.value]⟩

theorem first_without (h : env.all ps t = .ok none) (qs : List (List Parser)) :
    env.first (qs.map fun q => sequence (ps ++ q) .all) t = .ok (.fail t) := by
  induction qs with
  | nil => rfl
  | cons q qs ih =>
      have hq : (sequence (ps ++ q) .all).meaning env t = .ok (.fail t) := by
        rw [meaning_sequence_append, h]
        rfl
      rw [List.map_cons, first_cons, hq]
      exact ih

theorem meaning_factored (ps q : List Parser) (qs : List (List Parser)) :
    Agree Result.SameLeaves
      ((choice ((q :: qs).map fun q => sequence (ps ++ q) .all)).meaning env t)
      ((sequence (ps ++ [choice ((q :: qs).map fun q => sequence q .all)]) .all).meaning env t) := by
  rw [meaning_choice, meaning_sequence_append]
  -- However often the beginning is run, it comes to the same: a fault, a failure or some matches.
  cases h : env.all ps t with
  | error e =>
      rw [List.map_cons, first_cons, meaning_sequence_append, h]
      exact .error e
  | ok o =>
      rcases o with _ | ⟨u, ms⟩
      · rw [first_without h]
        exact .ok (.refl _)
      · have hbehind : closing .seq [] t <$>
              onward (env.all [choice ((q :: qs).map fun q => sequence q .all)]) (some (u, ms)) =
            (fun r => closing .seq ms t (taken r)) <$>
              env.first ((q :: qs).map fun q => sequence q .all) u := by
          rw [closing_onward, all_singleton, meaning_choice, Functor.map_map]
        refine Eq.subst (motive := Agree Result.SameLeaves _) hbehind.symm ?_
        exact first_behind h (q :: qs)

theorem first_joined (b : Bars) : env.first [b.joined] t = env.first b.alternatives t := by
  induction b with
  | one p => rfl
  | bar left right ihl ihr =>
      have hpair : env.first [left.joined, right.joined] t =
          env.first [left.joined] t >>= orElse (env.first [right.joined] t) := first_append [_] [_]
      rw [Bars.joined, first_choice, hpair, ihl, ihr, Bars.alternatives, first_append]

theorem meaning_joined (left right : Bars) :
    (left.bar right).joined.meaning env t =
      (choice (left.alternatives ++ right.alternatives)).meaning env t := by
  have hbar : env.first [(left.bar right).joined] t = env.first (left.bar right).alternatives t :=
    first_joined _
  rw [meaning_choice, ← Bars.alternatives, ← hbar, Bars.joined, first_choice, meaning_choice]

theorem exists_comesTo_of_agree {related : Result → Result → Prop}
    (h : Agree related (p.meaning env t) (q.meaning env t)) :
    ∃ o o', p.ComesTo env t o ∧ q.ComesTo env t o' ∧ Agree related o o' :=
  ⟨p.meaning env t, q.meaning env t, comesTo_meaning env p t, comesTo_meaning env q t, h⟩

-- Ordered choices and sequences can be regrouped, and a beginning in common taken out, whatever text the
-- parsers report when they fail and whatever faults they come to. A choice keeps its outcome as it is; a
-- sequence of its own has a match of its own, so that sequences keep what they take and the leaves. One of the
-- faults is the bound on rounds, which parsers that lengthen their text come to alike on both sides.
theorem refactoring_laws (env : Env) (t : Text) :
    (∀ xs ys zs, ∃ o, (choice (xs ++ [choice ys] ++ zs)).ComesTo env t o ∧
      (choice (xs ++ ys ++ zs)).ComesTo env t o) ∧
    (∀ left right : Bars,
      ((left.bar right).item = .ok (.parser (left.bar right).joined) ↔
        ∀ p ∈ (left.bar right).alternatives, p.Joinable) ∧
      ∃ o, (left.bar right).joined.ComesTo env t o ∧
        (choice (left.alternatives ++ right.alternatives)).ComesTo env t o) ∧
    (∀ xs ys zs, ∃ o o', (sequence (xs ++ [sequence ys .all] ++ zs) .all).ComesTo env t o ∧
      (sequence (xs ++ ys ++ zs) .all).ComesTo env t o' ∧ Agree Result.SameLeaves o o') ∧
    ∀ ps q qs, ∃ o o',
      (choice ((q :: qs).map fun q => sequence (ps ++ q) .all)).ComesTo env t o ∧
      (sequence (ps ++ [choice ((q :: qs).map fun q => sequence q .all)]) .all).ComesTo env t o' ∧
      Agree Result.SameLeaves o o' :=
  ⟨fun _ _ _ => exists_comesTo_of_meaning_eq meaning_choice_grouped,
    fun left right => ⟨Bars.item_eq_ok, exists_comesTo_of_meaning_eq (meaning_joined left right)⟩,
    fun _ _ _ => exists_comesTo_of_agree meaning_sequence_grouped,
    fun ps q qs => exists_comesTo_of_agree (meaning_factored ps q qs)⟩

end Parser

end Descent
