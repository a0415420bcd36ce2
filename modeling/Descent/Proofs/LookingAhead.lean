import Descent.Pattern.Matcher

namespace Descent.Pattern

def Anchor.looksAhead : Anchor → Bool
  | .textEnd | .lineEnd | .lastLineEnd => true
  | .textStart | .lineStart | .wordEdge _ | .noWordEdge _ => false

def Node.looksAhead : Node → Bool
  | .empty | .one _ | .sameAs _ _ => true
  | .anchor a => a.looksAhead
  | .seq a b | .alt a b | .ifGroup _ a b => a.looksAhead && b.looksAhead
  | .group _ body | .times _ _ _ body | .ahead _ body | .atomic body => body.looksAhead
  | .behind _ _ _ => false

-- Places that differ at most in the text before them.
def Cursor.SameAhead (s s' : Cursor) : Prop :=
  ∃ before, s' = { s with before }

def Goal.SameAhead (k k' : Goal) : Prop :=
  ∀ s s', Cursor.SameAhead s s' → Option.Rel Cursor.SameAhead (k s) (k' s')

-- A step that the text before it makes no difference to.
def Step.LooksAhead (body : Step) : Prop :=
  ∀ s s' k k', Cursor.SameAhead s s' → Goal.SameAhead k k' →
    Option.Rel Cursor.SameAhead (body s k) (body s' k')

section Related

variable {o o' other other' : Option Cursor} {k k' : Goal}

-- The first way through, or else the other one.
theorem rel_orElse : Option.Rel Cursor.SameAhead o o' → Option.Rel Cursor.SameAhead other other' →
    Option.Rel Cursor.SameAhead
      (match o with
        | some r => some r
        | none => other)
      (match o' with
        | some r => some r
        | none => other')
  | .none, hother => hother
  | .some hr, _ => .some hr

theorem rel_bind : Option.Rel Cursor.SameAhead o o' → Goal.SameAhead k k' →
    Option.Rel Cursor.SameAhead (o.bind k) (o'.bind k')
  | .none, _ => .none
  | .some hr, hk => hk _ _ hr

end Related

theorem sameAhead_some : Goal.SameAhead some some :=
  fun _ _ hs => .some hs

variable {body : Step} {k k' : Goal} {s s' : Cursor}

theorem Cursor.SameAhead.group?_eq (hs : s.SameAhead s') (i : Nat) : s'.group? i = s.group? i := by
  obtain ⟨before, rfl⟩ := hs
  rfl

theorem Cursor.SameAhead.passed_eq (hs : s.SameAhead s') : s'.passed = s.passed := by
  obtain ⟨before, rfl⟩ := hs
  rfl

theorem Cursor.SameAhead.withGroups {r r' : Cursor} (hs : s.SameAhead s') (hr : r.SameAhead r') :
    Cursor.SameAhead { s with groups := r.groups } { s' with groups := r'.groups } := by
  obtain ⟨before, rfl⟩ := hs
  obtain ⟨behind, rfl⟩ := hr
  exact ⟨before, rfl⟩

theorem Anchor.holds_sameAhead {a : Anchor} (ha : a.looksAhead) (hs : s.SameAhead s') :
    a.holds s' = a.holds s := by
  obtain ⟨before, rfl⟩ := hs
  cases a <;> first | rfl | cases ha

theorem required_sameAhead (hbody : Step.LooksAhead body) (hk : Goal.SameAhead k k') (n : Nat) :
    Goal.SameAhead (required body k n) (required body k' n) := by
  induction n with
  | zero => exact hk
  | succ n ih => exact fun s s' hs => hbody s s' _ _ hs ih

theorem greedy_sameAhead (hbody : Step.LooksAhead body) (hk : Goal.SameAhead k k') (fuel : Nat)
    (room last : Option Nat) :
    Goal.SameAhead (greedy body k fuel room last) (greedy body k' fuel room last) := by
  induction fuel generalizing room last with
  | zero => exact hk
  | succ fuel ih =>
      intro s s' hs
      have hmore := hbody s s' _ _ hs (ih (room.map (· - 1)) (some s.passed))
      have hdone := hk s s' hs
      obtain ⟨before, rfl⟩ := hs
      by_cases hstop : room = some 0 ∨ last = some s.passed
      · simpa only [greedy, hstop, if_true] using hdone
      · simp only [greedy, hstop, if_false]
        exact rel_orElse hmore hdone

theorem reluctant_sameAhead (hbody : Step.LooksAhead body) (hk : Goal.SameAhead k k') (fuel : Nat)
    (room last : Option Nat) :
    Goal.SameAhead (reluctant body k fuel room last) (reluctant body k' fuel room last) := by
  induction fuel generalizing room last with
  | zero => exact hk
  | succ fuel ih =>
      intro s s' hs
      have hmore := hbody s s' _ _ hs (ih (room.map (· - 1)) (some s.passed))
      have hdone := hk s s' hs
      obtain ⟨before, rfl⟩ := hs
      by_cases hstop : room = some 0 ∨ last = some s.passed
      · simp only [reluctant, hstop, if_true]
        exact rel_orElse hdone .none
      · simp only [reluctant, hstop, if_false]
        exact rel_orElse hdone hmore

theorem committed_looksAhead (hbody : Step.LooksAhead body) : Step.LooksAhead (committed body) := by
  intro s s' k k' hs hk
  have hfound := hbody s s' _ _ hs sameAhead_some
  unfold committed
  generalize body s some = o, body s' some = o' at hfound ⊢
  cases hfound with
  | none => exact .none
  | some hr => exact hk _ _ hr

theorem required_looksAhead {more : Step} (hbody : Step.LooksAhead body) (hmore : Step.LooksAhead more)
    (n : Nat) : Step.LooksAhead fun s k => required body (fun r => more r k) n s := by
  intro s s' k k' hs hk
  exact required_sameAhead hbody (fun r r' hr => hmore r r' k k' hr hk) n s s' hs

-- The text ahead bounds the rounds.
theorem greedy_looksAhead (hbody : Step.LooksAhead body) (room : Option Nat) :
    Step.LooksAhead fun s k => greedy body k (s.after.length + 2) room none s := by
  rintro s _ k k' ⟨before, rfl⟩ hk
  exact greedy_sameAhead hbody hk _ room none s _ ⟨before, rfl⟩

theorem reluctant_looksAhead (hbody : Step.LooksAhead body) (room : Option Nat) :
    Step.LooksAhead fun s k => reluctant body k (s.after.length + 2) room none s := by
  rintro s _ k k' ⟨before, rfl⟩ hk
  exact reluctant_sameAhead hbody hk _ room none s _ ⟨before, rfl⟩

theorem rounds_looksAhead (hbody : Step.LooksAhead body) (min : Nat) (max : Option Nat) (style : Style) :
    Step.LooksAhead (rounds min max style body) := by
  cases style with
  | greedy => exact required_looksAhead hbody (greedy_looksAhead hbody _) min
  | reluctant => exact required_looksAhead hbody (reluctant_looksAhead hbody _) min
  | possessive =>
      have hfirm := committed_looksAhead hbody
      exact committed_looksAhead (required_looksAhead hfirm (greedy_looksAhead hfirm _) min)

theorem repeated_sameAhead (folding : Folding) (t : Text) (hs : s.SameAhead s') :
    Option.Rel Cursor.SameAhead (repeated folding t s) (repeated folding t s') := by
  induction t generalizing s s' with
  | nil => exact .some hs
  | cons c rest ih =>
      obtain ⟨before, rfl⟩ := hs
      obtain ⟨back, after, passed, groups⟩ := s
      cases after with
      | nil => exact .none
      | cons d after =>
          by_cases hsame : folding.key c = folding.key d
          · simp only [repeated, hsame, if_true]
            exact ih ⟨d :: before, rfl⟩
          · simp only [repeated, hsame, if_false]
            exact .none

-- By induction over the pattern under every goal: what stands behind a part of it is the goal of that part.
theorem Node.run_looksAhead {n : Node} (hn : n.looksAhead) : Step.LooksAhead n.run := by
  induction n with
  | empty => exact fun s s' k k' hs hk => hk s s' hs
  | one test =>
      rintro ⟨back, after, passed, groups⟩ _ k k' ⟨before, rfl⟩ hk
      cases after with
      | nil => exact .none
      | cons c after =>
          by_cases hc : test.accepts c
          · simp only [Node.run, hc, if_true]
            exact hk _ _ ⟨c :: before, rfl⟩
          · simp only [Node.run, hc]
            exact .none
  | anchor a =>
      intro s s' k k' hs hk
      simp only [Node.run, Anchor.holds_sameAhead hn hs]
      by_cases ha : a.holds s
      · simpa only [ha, if_true] using hk s s' hs
      · simp only [ha]
        exact .none
  | seq a b iha ihb =>
      obtain ⟨ha, hb⟩ := Bool.and_eq_true_iff.mp hn
      exact fun s s' k k' hs hk =>
        iha ha s s' _ _ hs fun r r' hr => ihb hb r r' _ _ hr hk
  | alt a b iha ihb =>
      obtain ⟨ha, hb⟩ := Bool.and_eq_true_iff.mp hn
      exact fun s s' k k' hs hk => rel_orElse (iha ha s s' _ _ hs hk) (ihb hb s s' _ _ hs hk)
  | group i body ih =>
      rintro s _ k k' ⟨before, rfl⟩ hk
      refine ih hn _ _ _ _ ⟨before, rfl⟩ ?_
      rintro r _ ⟨behind, rfl⟩
      exact hk _ _ ⟨behind, rfl⟩
  | sameAs i folding =>
      intro s s' k k' hs hk
      have hgroup : s'.group? i = s.group? i := hs.group?_eq i
      simp only [Node.run, hgroup]
      cases s.group? i with
      | none => exact .none
      | some t => exact rel_bind (repeated_sameAhead folding t hs) hk
  | times min max style body ih => exact rounds_looksAhead (ih hn) min max style
  | ahead positive body ih =>
      intro s s' k k' hs hk
      have hfound := ih hn s s' _ _ hs sameAhead_some
      unfold Node.run
      generalize body.run s some = o, body.run s' some = o' at hfound ⊢
      cases hfound with
      | none => cases positive with
        | false => exact hk s s' hs
        | true => exact .none
      | some hr => cases positive with
        | false => exact .none
        | true => exact hk _ _ (hs.withGroups hr)
  | behind positive width body => cases hn
  | atomic body ih => exact committed_looksAhead (ih hn)
  | ifGroup i yes no ihyes ihno =>
      obtain ⟨hyes, hno⟩ := Bool.and_eq_true_iff.mp hn
      intro s s' k k' hs hk
      have hgroup : s'.group? i = s.group? i := hs.group?_eq i
      simp only [Node.run, hgroup]
      cases s.group? i with
      | none => exact ihno hno s s' _ _ hs hk
      | some t => exact ihyes hyes s s' _ _ hs hk

theorem length?_of_looksAhead {p : Pattern} (hp : p.node.looksAhead) (before after : Text) :
    p.length? before after = p.length? [] after := by
  let alone : Cursor := ⟨[], after, 0, []⟩
  let within : Cursor := ⟨before, after, 0, []⟩
  have hrun := Node.run_looksAhead hp alone within _ _ ⟨before, rfl⟩ sameAhead_some
  change (p.node.run within some).map _ = (p.node.run alone some).map _
  generalize p.node.run alone some = o, p.node.run within some = o' at hrun ⊢
  cases hrun with
  | none => rfl
  | some hr => exact congrArg some hr.passed_eq

-- What stands before the place can be exchanged.
theorem matchesAt_of_looksAhead {p : Pattern} (hp : p.node.looksAhead) (before after : Text) :
    p.matchesAt before after = p.matchesAt [] after :=
  congrArg Option.isSome (length?_of_looksAhead hp before after)

end Descent.Pattern
