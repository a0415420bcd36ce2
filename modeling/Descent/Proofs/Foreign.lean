import Descent.Proofs.Survival
import Descent.Runner

namespace Descent

namespace Match

mutual

-- All nodes, each one in front of those below it, and those from left to right.
def nodes : Match → List Match
  | .empty => [.empty]
  | .leaf t => [.leaf t]
  | .labeled name v => .labeled name v :: v.nodes
  | .seq items => .seq items :: nodesOf items
  | .foreign v => [.foreign v]

def nodesOf : List Match → List Match
  | [] => []
  | m :: rest => m.nodes ++ nodesOf rest

-- An empty match in place of every foreign node.
def cleared : Match → Match
  | .labeled name v => .labeled name v.cleared
  | .seq items => .seq (clearedOf items)
  | .foreign _ => .empty
  | m => m

def clearedOf : List Match → List Match
  | [] => []
  | m :: rest => m.cleared :: clearedOf rest

end

def foreign? : Match → Option Plain
  | .foreign v => some v
  | _ => none

-- No foreign node comes before that of this value.
def FirstForeign (m : Match) (v : Plain) : Prop :=
  ∃ before after, m.nodes = before ++ .foreign v :: after ∧ ∀ n ∈ before, ∀ w, n ≠ .foreign w

theorem nodesOf_eq_flatMap (items : List Match) : nodesOf items = items.flatMap nodes := by
  induction items with
  | nil => rfl
  | cons m rest ih => rw [nodesOf, ih, List.flatMap_cons]

theorem clearedOf_eq_map (items : List Match) : clearedOf items = items.map cleared := by
  induction items with
  | nil => rfl
  | cons m rest ih => rw [clearedOf, ih, List.map_cons]

theorem foreign?_eq_some {m : Match} {v : Plain} : m.foreign? = some v ↔ m = .foreign v := by
  cases m <;> simp [foreign?]

theorem foreign?_eq_none {m : Match} : m.foreign? = none ↔ ∀ v, m ≠ .foreign v := by
  cases m <;> simp [foreign?]

theorem mem_nodes_iff {n : Match} (m : Match) : n ∈ m.nodes ↔ n.Inside m := by
  induction m using Match.induction with
  | empty | leaf t | foreign value =>
      rw [nodes, List.mem_singleton]
      constructor
      · rintro rfl
        exact .refl
      · rintro ⟨⟩
        rfl
  | labeled name v ih =>
      rw [nodes, List.mem_cons, ih]
      constructor
      · rintro (rfl | h)
        · exact .refl
        · exact .labeled h
      · rintro (_ | h)
        · exact .inl rfl
        · exact .inr h
  | seq items ih =>
      rw [nodes, nodesOf_eq_flatMap, List.mem_cons, List.mem_flatMap]
      constructor
      · rintro (rfl | ⟨m, hm, hn⟩)
        · exact .refl
        · exact .item hm ((ih m hm).mp hn)
      · intro h
        cases h with
        | refl => exact .inl rfl
        | item hm hn => exact .inr ⟨_, hm, (ih _ hm).mpr hn⟩

theorem leaves_cleared (m : Match) : m.cleared.leaves = m.leaves := by
  induction m using Match.induction with
  | empty | leaf t => rfl
  | foreign value => rw [cleared, leaves_empty, leaves_foreign]
  | labeled name v ih => rw [cleared, leaves_labeled, leaves_labeled, ih]
  | seq items ih =>
      rw [cleared, clearedOf_eq_map, leaves_seq, leaves_seq, List.flatMap_map, List.flatMap_congr ih]

end Match

namespace Tree

variable {α β γ : Type} {x : Except Plain α} {y : Except Plain β}

-- What a construction is refused for.
def refusal : Except Plain α → Option Plain
  | .error v => some v
  | .ok _ => none

theorem refusal_bind_pure (g : α → γ) : refusal (do return g (← x)) = refusal x := by
  cases x <;> rfl

theorem refusal_bind_bind_pure (g : α → β → γ) :
    refusal (do let a ← x; return g a (← y)) = (refusal x).or (refusal y) := by
  cases x with
  | error v => rfl
  | ok a => cases y <;> rfl

-- Items behind a refused one are not looked at, and those in front of it have all been built.
theorem refusal_ofItems {items : List Match}
    (h : ∀ m ∈ items, refusal (ofMatch m) = m.nodes.findSome? Match.foreign?) :
    refusal (ofItems items) = (Match.nodesOf items).findSome? Match.foreign? := by
  induction items with
  | nil => rfl
  | cons m rest ih =>
      obtain ⟨hm, hrest⟩ := List.forall_mem_cons.mp h
      rw [ofItems, refusal_bind_bind_pure, hm, ih hrest, Match.nodesOf, List.findSome?_append]

theorem refusal_ofMatch (m : Match) : refusal (ofMatch m) = m.nodes.findSome? Match.foreign? := by
  induction m using Match.induction with
  | empty | leaf t | foreign value => rfl
  | labeled name v ih =>
      rw [ofMatch, refusal_bind_pure, ih]
      rfl
  | seq items ih =>
      rw [ofMatch, refusal_bind_pure, refusal_ofItems ih]
      rfl

theorem refusal_eq_some {m : Match} {v : Plain} :
    refusal (ofMatch m) = some v ↔ m.FirstForeign v := by
  rw [refusal_ofMatch, List.findSome?_eq_some_iff, Match.FirstForeign]
  simp only [Match.foreign?_eq_some, Match.foreign?_eq_none]
  constructor
  · rintro ⟨before, _, after, hnodes, rfl, hbefore⟩
    exact ⟨before, after, hnodes, hbefore⟩
  · rintro ⟨before, after, hnodes, hbefore⟩
    exact ⟨before, _, after, hnodes, rfl, hbefore⟩

theorem exists_refusal {m : Match} :
    (∃ v, refusal (ofMatch m) = some v) ↔ ∃ v, (Match.foreign v).Inside m := by
  rw [← Option.isSome_iff_exists, refusal_ofMatch, List.findSome?_isSome_iff]
  simp only [Option.isSome_iff_exists, Match.foreign?_eq_some, Match.mem_nodes_iff]
  constructor
  · rintro ⟨n, hinside, v, rfl⟩
    exact ⟨v, hinside⟩
  · rintro ⟨v, hinside⟩
    exact ⟨_, hinside, v, rfl⟩

end Tree

namespace Runner

theorem treeOf_eq_error_iff {m : Match} {f : Failure} :
    treeOf m = .error f ↔ ∃ v, Tree.refusal (Tree.ofMatch m) = some v ∧ f = .foreignNode v := by
  unfold treeOf
  cases Tree.ofMatch m <;> simp [Except.mapError, Tree.refusal, eq_comm]

-- A tree is refused exactly if some value in the match is no match node, wherever that stands, and the
-- refusal is about the first one of them and names its type. The leaves are those of the match with nothing
-- in the places of such values.
theorem treeOf_refuses_foreign (m : Match) :
    ((∃ f, treeOf m = .error f) ↔ ∃ v, (Match.foreign v).Inside m) ∧
    (∀ f, treeOf m = .error f ↔ ∃ v, m.FirstForeign v ∧ f = .foreignNode v) ∧
    (∀ v, (Failure.foreignNode v).message = "Not a match value: " ++ v.typeName) ∧
    m.leaves = m.cleared.leaves := by
  refine ⟨?_, fun f => ?_, fun v => rfl, (Match.leaves_cleared m).symm⟩
  · rw [← Tree.exists_refusal]
    constructor
    · rintro ⟨f, hf⟩
      obtain ⟨v, hv, -⟩ := treeOf_eq_error_iff.mp hf
      exact ⟨v, hv⟩
    · rintro ⟨v, hv⟩
      exact ⟨_, treeOf_eq_error_iff.mpr ⟨v, hv, rfl⟩⟩
  · rw [treeOf_eq_error_iff]
    simp only [Tree.refusal_eq_some]

end Runner

end Descent
