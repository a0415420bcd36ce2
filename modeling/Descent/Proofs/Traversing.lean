import Descent.Proofs.Survival
import Mathlib.Data.List.Induction
import Mathlib.Logic.Function.Iterate

namespace Descent.Match

mutual

-- The texts of the leaves from left to right.
def inOrder : Match → List Text
  | .leaf t => [t]
  | .labeled _ v => v.inOrder
  | .seq items => inOrderOf items
  | .empty | .foreign _ => []

def inOrderOf : List Match → List Text
  | [] => []
  | m :: rest => m.inOrder ++ inOrderOf rest

end

def children : Match → List Match
  | .labeled _ v => [v]
  | .seq items => items
  | _ => []

def ownTexts : Match → List Text
  | .leaf t => [t]
  | _ => []

-- The nodes that wait, of which the last one is next, and the texts taken so far.
structure Traversal where
  waiting : List Match
  taken : List Text

namespace Traversal

def start (m : Match) : Traversal :=
  ⟨[m], []⟩

-- Once no node waits, nothing is done any more.
def turn (s : Traversal) : Traversal :=
  match s.waiting.getLast? with
  | none => s
  | some m => ⟨s.waiting.dropLast ++ m.children.reverse, s.taken ++ m.ownTexts⟩

-- What has been taken, and what there is to take.
def texts (s : Traversal) : List Text :=
  s.taken ++ inOrderOf s.waiting.reverse

end Traversal

theorem inOrderOf_append (as bs : List Match) :
    inOrderOf (as ++ bs) = inOrderOf as ++ inOrderOf bs := by
  induction as with
  | nil => rfl
  | cons a as ih => simp only [List.cons_append, inOrderOf, ih, List.append_assoc]

theorem inOrderOf_eq_flatMap (items : List Match) : inOrderOf items = items.flatMap inOrder := by
  induction items with
  | nil => rfl
  | cons m rest ih => rw [inOrderOf, ih, List.flatMap_cons]

theorem inOrder_eq (m : Match) : m.inOrder = m.ownTexts ++ inOrderOf m.children := by
  cases m with
  | labeled name v => exact (List.append_nil _).symm
  | _ => rfl

theorem size_eq (m : Match) : m.size = sizeItems m.children + 1 := by
  cases m <;> rfl

theorem sizeItems_reverse (items : List Match) : sizeItems items.reverse = sizeItems items := by
  induction items with
  | nil => rfl
  | cons m rest ih =>
      rw [List.reverse_cons, sizeItems_append, ih]
      simp only [sizeItems]
      omega

theorem sizeItems_eq_zero {items : List Match} : sizeItems items = 0 ↔ items = [] := by
  cases items with
  | nil => simp [sizeItems]
  | cons m rest => simp [sizeItems, size_eq]

namespace Traversal

theorem turn_concat (below : List Match) (m : Match) (taken : List Text) :
    turn ⟨below ++ [m], taken⟩ = ⟨below ++ m.children.reverse, taken ++ m.ownTexts⟩ := by
  simp [turn]

theorem texts_turn (s : Traversal) : s.turn.texts = s.texts := by
  obtain ⟨waiting, taken⟩ := s
  cases waiting using List.reverseRecOn with
  | nil => rfl
  | append_singleton below m =>
      rw [turn_concat, texts, texts, List.reverse_append, List.reverse_reverse, List.reverse_append,
        List.reverse_singleton, inOrderOf_append, inOrderOf_append, inOrderOf, inOrderOf, inOrder_eq m]
      simp only [List.append_assoc, List.append_nil]

theorem sizeItems_turn (s : Traversal) : sizeItems s.turn.waiting = sizeItems s.waiting - 1 := by
  obtain ⟨waiting, taken⟩ := s
  cases waiting using List.reverseRecOn with
  | nil => rfl
  | append_singleton below m =>
      rw [turn_concat, sizeItems_append, sizeItems_append, sizeItems_reverse, sizeItems, sizeItems,
        size_eq m]
      omega

theorem texts_turns (n : Nat) (s : Traversal) : (turn^[n] s).texts = s.texts := by
  induction n with
  | zero => rfl
  | succ n ih => rw [Function.iterate_succ_apply', texts_turn, ih]

theorem sizeItems_turns (n : Nat) (s : Traversal) :
    sizeItems (turn^[n] s).waiting = sizeItems s.waiting - n := by
  induction n with
  | zero => rfl
  | succ n ih => rw [Function.iterate_succ_apply', sizeItems_turn, ih, Nat.sub_sub]

theorem waiting_turns_start (m : Match) (n : Nat) :
    (turn^[n] (start m)).waiting = [] ↔ m.size ≤ n := by
  have hstart : sizeItems (start m).waiting = m.size := rfl
  rw [← sizeItems_eq_zero, sizeItems_turns, hstart, Nat.sub_eq_zero_iff_le]

theorem turns_start (m : Match) : turn^[m.size] (start m) = ⟨[], m.inOrder⟩ := by
  have hwaiting := (waiting_turns_start m m.size).mpr (Nat.le_refl _)
  have htexts := texts_turns m.size (start m)
  generalize turn^[m.size] (start m) = s at hwaiting htexts
  obtain ⟨waiting, taken⟩ := s
  subst hwaiting
  simpa [texts, start, inOrderOf] using htexts

end Traversal

-- The leaves are those of the nodes from left to right, and so is what a traversal has taken as soon as no
-- node waits; that takes one turn for each node of the match.
theorem leaves_eq_inOrder (m : Match) :
    m.leaves = m.inOrder ∧ Traversal.turn^[m.size] (.start m) = ⟨[], m.leaves⟩ ∧
      ∀ n, (Traversal.turn^[n] (.start m)).waiting = [] ↔ m.size ≤ n := by
  have hleaves : m.leaves = m.inOrder := by
    induction m using Match.induction with
    | empty => exact leaves_empty
    | leaf t => exact leaves_leaf t
    | labeled name v ih => rwa [leaves_labeled, inOrder]
    | foreign value => exact leaves_foreign value
    | seq items ih => rw [leaves_seq, inOrder, inOrderOf_eq_flatMap, List.flatMap_congr ih]
  exact ⟨hleaves, hleaves ▸ Traversal.turns_start m, Traversal.waiting_turns_start m⟩

end Descent.Match
