import Descent.Proofs.Gives
import Descent.Proofs.Leaves
import Descent.Proofs.Taking

namespace Descent

-- Pieces that stand in a text one behind the other, with anything around them.
def Text.InOrder : List Text → Text → Prop
  | [], _ => True
  | piece :: more, t => ∃ gap rest, t = gap ++ piece ++ rest ∧ InOrder more rest

namespace Rule

-- What is matched is made of the text alone: callers put in no values of their own.
def MadeOfText : Rule Parser → Prop
  | .bind _ _ | .succeed _ | .custom _ | .sequence _ (.custom _) => False
  | _ => True

-- What is taken off the text is matched, down to the last blank.
def KeepsAll : Rule Parser → Prop
  | .char _ | .pattern _ _ | .sequence _ .all | .choice _ | .attempt _ | .maybe _ | .many _
  | .many1 _ | .label _ _ | .forward _ _ | .follow _ _ | .lookUp _ => True
  | _ => False

theorem KeepsAll.madeOfText {rule : Rule Parser} (h : rule.KeepsAll) : rule.MadeOfText := by
  cases rule with
  | sequence items reducer =>
      cases reducer with
      | custom f => exact h.elim
      | _ => trivial
  | bind first next => exact h.elim
  | succeed m => exact h.elim
  | custom f => exact h.elim
  | _ => trivial

end Rule

-- A way for pieces to account for a text that can be put together from one text to the next.
structure Additive (accounts : List Text → Text → Prop) : Prop where
  nil : accounts [] []
  append {as bs : List Text} {t u : Text} :
    accounts as t → accounts bs u → accounts (as ++ bs) (t ++ u)

namespace Text

variable {as bs : List Text} {t u : Text}

theorem InOrder.prepend (h : InOrder as t) (front : Text) : InOrder as (front ++ t) := by
  cases as with
  | nil => trivial
  | cons piece more =>
      obtain ⟨gap, rest, rfl, hmore⟩ := h
      exact ⟨front ++ gap, rest, by simp, hmore⟩

theorem InOrder.append (ha : InOrder as t) (hb : InOrder bs u) : InOrder (as ++ bs) (t ++ u) := by
  induction as generalizing t with
  | nil => exact hb.prepend t
  | cons piece more ih =>
      obtain ⟨gap, rest, rfl, hmore⟩ := ha
      exact ⟨gap, rest ++ u, by simp, ih hmore⟩

theorem InOrder.sublist (hsub : as.Sublist bs) (h : InOrder bs t) : InOrder as t := by
  induction hsub generalizing t with
  | slnil => trivial
  | cons piece _ ih =>
      obtain ⟨gap, rest, rfl, hmore⟩ := h
      exact (ih hmore).prepend (gap ++ piece)
  | cons_cons piece _ ih =>
      obtain ⟨gap, rest, rfl, hmore⟩ := h
      exact ⟨gap, rest, rfl, ih hmore⟩

theorem inOrder_nil (t : Text) : InOrder [] t :=
  trivial

theorem inOrder_singleton (front t behind : Text) : InOrder [t] (front ++ t ++ behind) :=
  ⟨front, behind, rfl, trivial⟩

theorem inOrder_additive : Additive InOrder :=
  ⟨trivial, InOrder.append⟩

theorem flatten_additive : Additive fun pieces t => pieces.flatten = t :=
  ⟨rfl, by rintro as bs t u rfl rfl; simp⟩

end Text

-- The leaves of a success account for the text in front of what is left.
def Result.Accounted (accounts : List Text → Text → Prop) (t : Text) : Result → Prop
  | .ok rest m => ∃ taken, t = taken ++ rest ∧ accounts m.leaves taken
  | .failed _ _ => True

namespace Answers

variable {accounts : List Text → Text → Prop} {answers : Answers} {p : Parser} {ps : List Parser}
  {t rest : Text} {ms : List Match}

theorem All.accounted (hadd : Additive accounts)
    (hans : ∀ p u r, answers p u r → r.Accounted accounts u)
    (h : answers.All ps t (some (rest, ms))) :
    ∃ taken, t = taken ++ rest ∧ accounts (ms.flatMap Match.leaves) taken := by
  induction ps generalizing t ms with
  | nil => cases h; exact ⟨[], rfl, hadd.nil⟩
  | cons p ps ih =>
      cases h with
      | next hp hps =>
          obtain ⟨front, rfl, hfront⟩ := hans _ _ _ hp
          obtain ⟨behind, rfl, hbehind⟩ := ih hps
          exact ⟨front ++ behind, by simp, hadd.append hfront hbehind⟩

theorem Repeated.accounted (hadd : Additive accounts)
    (hans : ∀ p u r, answers p u r → r.Accounted accounts u)
    (h : answers.Repeated p t rest ms) :
    ∃ taken, t = taken ++ rest ∧ accounts (ms.flatMap Match.leaves) taken := by
  induction h with
  | stop _ => exact ⟨[], rfl, hadd.nil⟩
  | idle hp =>
      obtain ⟨taken, ht, htaken⟩ := hans _ _ _ hp
      exact ⟨taken, ht, by simpa using htaken⟩
  | step hp _ _ ih =>
      obtain ⟨front, rfl, hfront⟩ := hans _ _ _ hp
      obtain ⟨behind, rfl, hbehind⟩ := ih
      exact ⟨front ++ behind, by simp, hadd.append hfront hbehind⟩

end Answers

namespace Rule

variable {accounts : List Text → Text → Prop} {env : Env} {answers : Answers} {rule : Rule Parser}
  {t : Text} {r : Result}

theorem restoring_accounted (h : r.Accounted accounts t) :
    (restoring t r).Accounted accounts t := by
  cases r with
  | ok rest m => exact h
  | failed rest v => trivial

-- The rules that drop nothing account for their text in whatever way their pieces do.
theorem Gives.accounted (h : rule.Gives env answers t r) (hrule : rule.KeepsAll)
    (hadd : Additive accounts) (hwhole : ∀ t, accounts [t] t)
    (hans : ∀ p u s, answers p u s → s.Accounted accounts u) : r.Accounted accounts t := by
  cases h with
  | char c t =>
      rcases takeChar_cases c t with h | ⟨rest, rfl, h⟩ <;> rw [h]
      · trivial
      · exact ⟨[c], rfl, by simpa using hwhole [c]⟩
  | pattern use p t =>
      rcases takePattern_cases use p t with h | ⟨taken, rest, rfl, h⟩ <;> rw [h]
      · trivial
      · exact ⟨taken, rfl, by simpa using hwhole taken⟩
  | @sequence items reducer t rest ms m hall hm =>
      cases reducer with
      | all =>
          obtain rfl := Except.ok.inj hm
          simpa [Result.Accounted] using hall.accounted hadd hans
      | nth _ => exact hrule.elim
      | custom _ => exact hrule.elim
  | sequenceBroken _ => trivial
  | choice hfirst =>
      exact hfirst.result (·.Accounted accounts t) trivial fun p u m => hans p t (.ok u m)
  | attempt hp => exact restoring_accounted (hans _ _ _ hp)
  | maybe hp => exact hans _ _ _ hp
  | maybeAbsent _ => exact ⟨[], rfl, by simpa using hadd.nil⟩
  | many hs => simpa [Result.Accounted] using hs.accounted hadd hans
  | many1 hs => simpa [Result.Accounted] using hs.accounted hadd hans
  | many1Absent _ => trivial
  | label hp => simpa [Result.Accounted] using hans _ _ _ hp
  | labelFailed _ => trivial
  | forward _ hp => exact hans _ _ _ hp
  | follow _ hp => exact hans _ _ _ hp
  | lookUp _ hp => exact hans _ _ _ hp
  | _ => exact hrule.elim

-- Blanks, separators and parentheses that are dropped stand between the leaves.
theorem Gives.inOrder (h : rule.Gives env answers t r) (hrule : rule.MadeOfText)
    (hans : ∀ p u s, answers p u s → s.Accounted Text.InOrder u) :
    r.Accounted Text.InOrder t := by
  by_cases hkeeps : rule.KeepsAll
  · have hwhole : ∀ u, Text.InOrder [u] u := fun u => by
      simpa using Text.inOrder_singleton [] u []
    exact h.accounted hkeeps Text.inOrder_additive hwhole hans
  cases h with
  | symbol literal t =>
      rcases takeSymbol_cases literal t with h | ⟨behind, hfront, h⟩ <;> rw [h]
      · trivial
      · obtain ⟨before, hbefore⟩ := Text.skipBlanks_suffix t
        obtain ⟨after, hafter⟩ := Text.skipBlanks_suffix behind
        refine ⟨before ++ literal ++ after, ?_, ?_⟩
        · calc t = before ++ (literal ++ (after ++ Text.skipBlanks behind)) := by
                rw [hafter, ← hfront, hbefore]
            _ = before ++ literal ++ after ++ Text.skipBlanks behind := by simp
        · simpa using Text.inOrder_singleton before literal after
  | whiteSpace t =>
      obtain ⟨before, hbefore⟩ := Text.skipBlanks_suffix t
      exact ⟨before, hbefore.symm, by simpa using Text.inOrder_nil before⟩
  | @sequence items reducer t rest ms m hall hm =>
      cases reducer with
      | all => exact absurd trivial hkeeps
      | custom _ => exact hrule.elim
      | nth index =>
          obtain ⟨taken, ht, htaken⟩ := hall.accounted Text.inOrder_additive hans
          have hsub : m.leaves.Sublist (ms.flatMap Match.leaves) := by
            rw [List.flatMap_def]
            exact List.sublist_flatten_of_mem (List.mem_map_of_mem (Reducer.mem_of_nth hm))
          exact ⟨taken, ht, htaken.sublist hsub⟩
  | sequenceBroken _ => trivial
  | sepBy he _ hs =>
      obtain ⟨front, rfl, hfront⟩ := hans _ _ _ he
      obtain ⟨behind, rfl, hbehind⟩ := hs.accounted Text.inOrder_additive hans
      exact ⟨front ++ behind, by simp, by simpa using hfront.append hbehind⟩
  | sepByIdle he => simpa [Result.Accounted] using hans _ _ _ he
  | sepByAbsent _ => exact ⟨[], rfl, by simpa using Text.inOrder_nil []⟩
  | @lexeme p t rest m hp =>
      obtain ⟨front, rfl, hfront⟩ := hans _ _ _ hp
      obtain ⟨blanks, hblanks⟩ := Text.skipBlanks_suffix rest
      refine ⟨front ++ blanks, by simp [hblanks], ?_⟩
      simpa using hfront.append (Text.inOrder_nil blanks)
  | lexemeFailed _ => trivial
  | bind _ _ _ => exact hrule.elim
  | bindFailed _ => trivial
  | succeed _ _ => exact hrule.elim
  | custom _ => exact hrule.elim
  | _ => exact absurd trivial hkeeps

end Rule

namespace Parser

variable {env : Env} {limit : Nat} {p : Parser} {t rest : Text} {m : Match}

theorem invoke_leaves_inOrder (hp : p.Throughout env (fun _ => True) Rule.MadeOfText)
    (h : (p.invoke env limit t).outcome = .ok (.ok rest m)) :
    (Result.ok rest m).Accounted Text.InOrder t :=
  invoke_induction (fun _ u s => s.Accounted Text.InOrder u) (fun _ _ _ _ _ => trivial)
    (fun _ _ _ hrule hgives => hgives.inOrder hrule fun _ _ _ hs => hs) hp h

theorem invoke_leaves_flatten (hp : p.Throughout env (fun _ => True) Rule.KeepsAll)
    (h : (p.invoke env limit t).outcome = .ok (.ok rest m)) : t = m.leaves.flatten ++ rest := by
  have hwhole : ∀ u : Text, [u].flatten = u := fun u => by simp
  obtain ⟨taken, ht, rfl⟩ := invoke_induction
    (fun _ u s => s.Accounted (fun pieces v => pieces.flatten = v) u) (fun _ _ _ _ _ => trivial)
    (fun _ _ _ hrule hgives =>
      hgives.accounted hrule Text.flatten_additive hwhole fun _ _ _ hs => hs) hp h
  exact ht

-- Without values put in by callers the leaves stand in the consumed text, in their order and apart
-- from each other; where no blanks, separators or parentheses are dropped, they are all of it.
theorem leaves_from_consumed (hp : p.Throughout env (fun _ => True) Rule.MadeOfText)
    (h : (p.invoke env limit t).outcome = .ok (.ok rest m)) :
    t.take (t.length - rest.length) ++ rest = t ∧
      Text.InOrder m.leaves (t.take (t.length - rest.length)) ∧
      (p.Throughout env (fun _ => True) Rule.KeepsAll →
        m.leaves.flatten = t.take (t.length - rest.length)) := by
  obtain ⟨taken, rfl, htaken⟩ := invoke_leaves_inOrder hp h
  have hconsumed : (taken ++ rest).take ((taken ++ rest).length - rest.length) = taken := by
    simp
  rw [hconsumed]
  refine ⟨rfl, htaken, fun hkeeps => ?_⟩
  exact (List.append_cancel_right (invoke_leaves_flatten hkeeps h)).symm

-- A setting, and a list of settings that leaves its separators out.
def setting : Parser :=
  sequence [natural, char '=', natural] .all

def settings : Parser :=
  sepBy comma setting

theorem setting_throughout : setting.Throughout (.ofTargets []) (fun _ => True) Rule.KeepsAll := by
  refine throughout_of_closed [setting, natural, char '='] (by simp) ?_ ?_
  · simp only [List.forall_mem_cons]
    exact ⟨trivial, trivial, trivial, by simp⟩
  · simp only [List.forall_mem_cons]
    have hitems : [natural, char '=', natural] ⊆ [setting, natural, char '='] := by simp
    exact ⟨fun r hr => hitems hr, fun _ hr => hr.elim, fun _ hr => hr.elim, by simp⟩

theorem settings_throughout :
    settings.Throughout (.ofTargets []) (fun _ => True) Rule.MadeOfText := by
  let following := sequence [comma, setting] (.nth 1)
  let members := [settings, following, comma, setting, natural, char '=']
  refine throughout_of_closed members (by simp [members]) ?_ ?_
  · simp only [members, List.forall_mem_cons]
    exact ⟨trivial, trivial, trivial, trivial, trivial, trivial, by simp⟩
  · have hpair : [comma, setting] ⊆ members := by simp [members]
    have hitems : [natural, char '=', natural] ⊆ members := by simp [members]
    simp only [members, List.forall_mem_cons]
    refine ⟨?_, fun r hr => hpair hr, fun _ hr => hr.elim, fun r hr => hitems hr,
      fun _ hr => hr.elim, fun _ hr => hr.elim, by simp⟩
    rintro r (rfl | rfl) <;> simp [following]

theorem leaves_from_consumed_settings :
    Text.InOrder (Match.seq [.seq [.leaf ['1'], .leaf ['='], .leaf ['2', '5']],
        .seq [.leaf ['3'], .leaf ['='], .leaf ['4']]]).leaves
        ['1', '=', '2', '5', ' ', ',', '3', '=', '4'] ∧
      (Match.seq [.leaf ['1'], .leaf ['='], .leaf ['2', '5']]).leaves.flatten =
        ['1', '=', '2', '5'] := by
  have hlist : (settings.invoke (.ofTargets []) 7
      ['1', '=', '2', '5', ' ', ',', '3', '=', '4', ',']).outcome =
      .ok (.ok [','] (.seq [.seq [.leaf ['1'], .leaf ['='], .leaf ['2', '5']],
        .seq [.leaf ['3'], .leaf ['='], .leaf ['4']]])) := rfl
  have hone : (setting.invoke (.ofTargets []) 7 ['1', '=', '2', '5', ' ']).outcome =
      .ok (.ok [' '] (.seq [.leaf ['1'], .leaf ['='], .leaf ['2', '5']])) := rfl
  have hmade : setting.Throughout (.ofTargets []) (fun _ => True) Rule.MadeOfText :=
    setting_throughout.mono fun _ => Rule.KeepsAll.madeOfText
  exact ⟨(leaves_from_consumed settings_throughout hlist).2.1,
    (leaves_from_consumed hmade hone).2.2 setting_throughout⟩

end Parser

end Descent
