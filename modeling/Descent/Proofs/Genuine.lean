import Descent.Proofs.Gives
import Descent.Proofs.Taking
import Descent.Tree

namespace Descent

-- At no depth stands a value that is no match.
inductive Match.Genuine : Match → Prop
  | empty : Genuine .empty
  | leaf (t : Text) : Genuine (.leaf t)
  | labeled {name : String} {v : Match} : Genuine v → Genuine (.labeled name v)
  | seq {items : List Match} : (∀ m ∈ items, Genuine m) → Genuine (.seq items)

theorem Tree.ofItems_genuine {items : List Match}
    (h : ∀ m ∈ items, ∃ built, Tree.ofMatch m = .ok built) :
    ∃ ts, Tree.ofItems items = .ok ts := by
  induction items with
  | nil => exact ⟨[], rfl⟩
  | cons m rest ih =>
      obtain ⟨built, hbuilt⟩ := h m (by simp)
      obtain ⟨ts, hts⟩ := ih fun n hn => h n (by simp [hn])
      exact ⟨built.toList ++ ts, by rw [Tree.ofItems, hbuilt, hts]; rfl⟩

theorem Tree.ofMatch_genuine {m : Match} (h : m.Genuine) : ∃ built, Tree.ofMatch m = .ok built := by
  induction h with
  | empty => exact ⟨none, rfl⟩
  | leaf t => exact ⟨some (.text t), rfl⟩
  | @labeled name v _ ih =>
      obtain ⟨built, hbuilt⟩ := ih
      exact ⟨Tree.underLabel name built, by rw [Tree.ofMatch, hbuilt]; rfl⟩
  | @seq items _ ih =>
      obtain ⟨ts, hts⟩ := Tree.ofItems_genuine ih
      exact ⟨Tree.gather ts, by rw [Tree.ofMatch, hts]; rfl⟩

def Result.Genuine : Result → Prop
  | .ok _ m => m.Genuine
  | .failed _ _ => True

-- A reducer of a caller's is only asked to make matches of matches.
def Reducer.YieldsMatches : Reducer → Prop
  | .custom f => ∀ ms m, (∀ n ∈ ms, n.Genuine) → f ms = .ok m → m.Genuine
  | _ => True

theorem Reducer.YieldsMatches.genuine {reducer : Reducer} {ms : List Match} {m : Match}
    (h : reducer.YieldsMatches) (hms : ∀ n ∈ ms, n.Genuine) (hm : reducer.apply ms = .ok m) :
    m.Genuine := by
  cases reducer with
  | all => cases hm; exact .seq hms
  | custom f => exact h ms m hms hm
  | nth i => exact hms m (mem_of_nth hm)

-- What callers put into a grammar yields matches: values, reducers and parsers written by hand.
def Rule.YieldsMatches : Rule Parser → Prop
  | .succeed m => m.Genuine
  | .custom f => ∀ t rest m, f.apply t = .ok (.ok rest m) → m.Genuine
  | .sequence _ reducer => reducer.YieldsMatches
  | _ => True

namespace Answers

variable {answers : Answers} {p : Parser} {ps : List Parser} {t rest : Text}

theorem All.genuine {ms : List Match} (hans : ∀ p u r, answers p u r → r.Genuine)
    (h : answers.All ps t (some (rest, ms))) : ∀ m ∈ ms, m.Genuine := by
  induction ps generalizing t ms with
  | nil => cases h; simp
  | cons p ps ih =>
      cases h with
      | next hp hps => exact List.forall_mem_cons.mpr ⟨hans _ _ _ hp, ih hps⟩

theorem Repeated.genuine {ms : List Match} (hans : ∀ u r, answers p u r → r.Genuine)
    (h : answers.Repeated p t rest ms) : ∀ m ∈ ms, m.Genuine := by
  induction h with
  | stop _ => simp
  | idle hp => exact List.forall_mem_singleton.mpr (hans _ _ hp)
  | step hp _ _ ih => exact List.forall_mem_cons.mpr ⟨hans _ _ hp, ih⟩

end Answers

namespace Rule

theorem TakesLeaf.genuine {t : Text} {r : Result} (h : TakesLeaf t r) : r.Genuine := by
  rcases h with rfl | ⟨rest, piece, -, rfl⟩
  · trivial
  · exact .leaf piece

theorem restoring_genuine {t : Text} {r : Result} (h : r.Genuine) : (restoring t r).Genuine := by
  cases r <;> exact h

variable {env : Env} {answers : Answers} {rule : Rule Parser} {t : Text} {r : Result}

-- A grammar yields no foreign nodes as long as what callers put into it yields none.
theorem Gives.genuine (h : rule.Gives env answers t r) (hrule : rule.YieldsMatches)
    (hans : ∀ p u s, answers p u s → s.Genuine) : r.Genuine := by
  cases h with
  | char c t => exact (takeChar_takesLeaf c t).genuine
  | pattern use p t => exact (takePattern_takesLeaf use p t).genuine
  | symbol literal t => exact (takeSymbol_takesLeaf literal t).genuine
  | whiteSpace t => exact .empty
  | succeed m t => exact hrule
  | custom hf =>
      cases r with
      | ok rest m => exact hrule t rest m hf
      | failed rest v => trivial
  | sequence hall hm => exact hrule.genuine (hall.genuine hans) hm
  | choice hfirst => exact hfirst.result (·.Genuine) trivial fun p u m => hans p t (.ok u m)
  | attempt hp => exact restoring_genuine (hans _ _ _ hp)
  | maybe hp => exact hans _ _ _ hp
  | maybeAbsent _ => exact .empty
  | many hs => exact .seq (hs.genuine (hans _))
  | many1 hs => exact .seq (hs.genuine (hans _))
  | sepBy he _ hs =>
      have hfirst : Match.Genuine _ := hans _ _ _ he
      exact .seq (List.forall_mem_cons.mpr ⟨hfirst, hs.genuine (hans _)⟩)
  | sepByIdle he =>
      have hfirst : Match.Genuine _ := hans _ _ _ he
      exact .seq (List.forall_mem_singleton.mpr hfirst)
  | sepByAbsent _ => exact .seq (by simp)
  | label hp =>
      have hinner : Match.Genuine _ := hans _ _ _ hp
      exact .labeled hinner
  | lexeme hp =>
      have hinner : Match.Genuine _ := hans _ _ _ hp
      exact hinner
  | bind _ _ hp => exact restoring_genuine (hans _ _ _ hp)
  | forward _ hp => exact hans _ _ _ hp
  | follow _ hp => exact hans _ _ _ hp
  | lookUp _ hp => exact hans _ _ _ hp
  | _ => trivial

end Rule

end Descent
