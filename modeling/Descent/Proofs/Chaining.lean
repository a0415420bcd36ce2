import Descent.Proofs.Ending
import Descent.Proofs.Unlimited

namespace Descent

namespace Parser

-- Binds each item in turn, with the matches so far at hand, and answers with the value of them all.
def chain (value : List Match → Match) : List Match → List Parser → Parser
  | ms, [] => succeed (value ms)
  | ms, p :: ps => p.bind fun m => .parser (chain value (ms ++ [m]) ps)

-- The result behind some matches, given what comes of the items that follow them.
def closing (value : List Match → Match) (ms : List Match) (t : Text) :
    Option (Text × List Match) → Result
  | none => .fail t
  | some (rest, ns) => .ok rest (value (ms ++ ns))

variable {env : Env} {value : List Match → Match} {ms : List Match} {p : Parser}
  {ps items : List Parser} {t u : Text} {reducer : Reducer} {limit higher : Nat}

theorem restoring_closing (m : Match) (o : Option (Text × List Match)) :
    Rule.restoring t (closing value (ms ++ [m]) u o) =
      closing value ms t (o.map fun (last, ns) => (last, m :: ns)) := by
  cases o with
  | none => rfl
  | some last => simp [closing, Rule.restoring]

-- One item, and the same again behind it.
theorem closing_runAll_cons (invoke : Invocation) :
    closing value ms t <$> Rule.runAll invoke (p :: ps) t =
      invoke p t >>= fun r => match r with
        | .failed _ _ => pure (.fail t)
        | .ok u m => Rule.restoring t <$>
            (closing value (ms ++ [m]) u <$> Rule.runAll invoke ps u) := by
  rw [Rule.runAll, map_bind]
  refine bind_congr fun r => ?_
  cases r with
  | failed u v => exact map_pure _ _
  | ok u m =>
      dsimp only
      rw [map_bind, Functor.map_map, ← bind_pure_comp]
      refine bind_congr fun o => ?_
      rw [restoring_closing]
      cases o with
      | none => exact map_pure _ _
      | some last => exact map_pure _ _

theorem outcome_chain_cons (env : Env) (limit : Nat) :
    ((chain value ms (p :: ps)).invoke env (limit + 1) t).outcome =
      (p.invoke env limit t >>= fun r => match r with
        | .failed _ _ => pure (.fail t)
        | .ok u m => Rule.restoring t <$> (chain value (ms ++ [m]) ps).invoke env limit u).outcome := by
  rw [invoke_succ, outcome_noted]
  refine congrArg Run.outcome (bind_congr fun r => ?_)
  cases r with
  | failed u v => rfl
  | ok u m =>
      have hnext : Run.lift (Rule.chosen env (.parser (chain value (ms ++ [m]) ps))) =
          pure (chain value (ms ++ [m]) ps) := rfl
      dsimp only
      rw [hnext, pure_bind, bind_pure_comp]

-- The items of a sequence under one limit, and those of a chain, each under one less than the item in
-- front of it.
theorem runAll_foretells_chain (hlimit : limit + ps.length < higher) :
    (closing value ms t <$> Rule.runAll (invoke env limit) ps t).Foretells
      ((chain value ms ps).invoke env higher t) := by
  induction ps generalizing ms t higher with
  | nil =>
      obtain ⟨higher, rfl⟩ : ∃ n, higher = n + 1 := ⟨higher - 1, by simp at hlimit; omega⟩
      refine .of_outcome_eq ?_
      rw [invoke_succ, outcome_noted]
      simp [Rule.runAll, chain, succeed, Rule.perform, closing]
  | cons p ps ih =>
      obtain ⟨higher, rfl⟩ : ∃ n, higher = n + 1 := ⟨higher - 1, by omega⟩
      simp only [List.length_cons] at hlimit
      rw [closing_runAll_cons]
      have hp : (p.invoke env limit t).Foretells (p.invoke env higher t) :=
        invoke_foretells (by omega) p t
      refine (hp.bind fun r => ?_).trans (.of_outcome_eq (outcome_chain_cons env higher).symm)
      cases r with
      | failed u v => exact .refl _
      | ok u m => exact (ih (by omega)).map _

theorem chain_foretells_runAll (hlimit : limit ≤ higher + 1) :
    ((chain value ms ps).invoke env limit t).Foretells
      (closing value ms t <$> Rule.runAll (invoke env higher) ps t) := by
  induction ps generalizing ms t limit with
  | nil =>
      cases limit with
      | zero => exact fun hcut => absurd rfl hcut
      | succ limit =>
          refine .of_outcome_eq ?_
          rw [invoke_succ, outcome_noted]
          simp [Rule.runAll, chain, succeed, Rule.perform, closing]
  | cons p ps ih =>
      cases limit with
      | zero => exact fun hcut => absurd rfl hcut
      | succ limit =>
          rw [closing_runAll_cons]
          have hp : (p.invoke env limit t).Foretells (p.invoke env higher t) :=
            invoke_foretells (by omega) p t
          refine Run.Foretells.trans (.of_outcome_eq (outcome_chain_cons env limit)) (hp.bind fun r => ?_)
          cases r with
          | failed u v => exact .refl _
          | ok u m => exact (ih (by omega)).map _

-- With a reducer that has a value for the matches of all items.
theorem outcome_sequence (h : ∀ ms, ms.length = items.length → reducer.apply ms = .ok (value ms)) :
    ((sequence items reducer).invoke env (limit + 1) t).outcome =
      (closing value [] t <$> Rule.runAll (invoke env limit) items t).outcome := by
  rw [invoke_succ, outcome_noted, ← bind_pure_comp]
  cases hall : (Rule.runAll (invoke env limit) items t).outcome with
  | error e =>
      rw [Run.bind_of_error _ hall]
      exact congrArg Run.outcome (Run.bind_of_error _ hall)
  | ok o =>
      rw [Run.bind_of_ok _ hall]
      refine (congrArg Run.outcome (Run.bind_of_ok _ hall)).trans ?_
      rcases o with _ | ⟨rest, ms⟩
      · rfl
      · have hvalue := h ms (Rule.all_of_runAll hall).length_eq
        dsimp only
        rw [hvalue]
        rfl

-- A sequence and the chain of its items have one outcome on every text, whether that is a success, a
-- failure or a fault. The chain asks for a nesting limit that is higher by the number of the items. Where an
-- item repeats a parser that lengthens its text, the bound on rounds is the same in both.
theorem sequence_eq_chain (h : ∀ ms, ms.length = items.length → reducer.apply ms = .ok (value ms))
    (env : Env) (t : Text) :
    (∃ o, (sequence items reducer).ComesTo env t o ∧ (chain value [] items).ComesTo env t o) ∧
      ∀ limit, ((sequence items reducer).invoke env limit t).Foretells
          ((chain value [] items).invoke env (limit + items.length) t) ∧
        ((chain value [] items).invoke env limit t).Foretells
          ((sequence items reducer).invoke env limit t) := by
  have hchain : ∀ limit, ((sequence items reducer).invoke env limit t).Foretells
      ((chain value [] items).invoke env (limit + items.length) t) := by
    intro limit
    cases limit with
    | zero => exact fun hcut => absurd rfl hcut
    | succ limit =>
        exact Run.Foretells.trans (.of_outcome_eq (outcome_sequence h))
          (runAll_foretells_chain (by omega))
  have hsequence : ∀ limit, ((chain value [] items).invoke env limit t).Foretells
      ((sequence items reducer).invoke env limit t) := by
    intro limit
    cases limit with
    | zero => exact fun hcut => absurd rfl hcut
    | succ limit =>
        exact (chain_foretells_runAll (Nat.le_refl _)).trans (.of_outcome_eq (outcome_sequence h).symm)
  have hboth := exists_comesTo_both (fun limit => ⟨_, hchain limit⟩) fun limit => ⟨_, hsequence limit⟩
  exact ⟨hboth, fun limit => ⟨hchain limit, hsequence limit⟩⟩

-- A mark, a digit read by hand, and a parser that fails behind the character it looks at unless a mark
-- stands there; the matches are turned around.
def turned (ms : List Match) : Match :=
  .seq ms.reverse

def pieces : List Parser :=
  [char 'a', custom .digit "digit", choice [char 'b', custom .sloppy "sloppy"]]

theorem sequence_eq_chain_pieces :
    (∀ ms, ms.length = pieces.length → Reducer.backwards.apply ms = .ok (turned ms)) ∧
      ((chain turned [] pieces).invoke (.ofTargets []) 6 ['a', '7', 'b', 'c']).outcome =
        .ok (.ok ['c'] (.seq [.leaf ['b'], .leaf ['7'], .leaf ['a']])) ∧
      ((chain turned [] pieces).invoke (.ofTargets []) 6 ['a', '7', 'x']).outcome =
        .ok (.fail ['a', '7', 'x']) := by
  have hturned : ∀ ms, ms.length = pieces.length → Reducer.backwards.apply ms = .ok (turned ms) :=
    fun _ _ => rfl
  have hread : ((sequence pieces .backwards).invoke (.ofTargets []) 3 ['a', '7', 'b', 'c']).outcome =
      .ok (.ok ['c'] (.seq [.leaf ['b'], .leaf ['7'], .leaf ['a']])) := rfl
  have hfails : ((sequence pieces .backwards).invoke (.ofTargets []) 3 ['a', '7', 'x']).outcome =
      .ok (.fail ['a', '7', 'x']) := rfl
  have hchain := fun t => ((sequence_eq_chain hturned (.ofTargets []) t).2 3).1
  exact ⟨hturned, (hchain _ (by simp [hread])).trans hread, (hchain _ (by simp [hfails])).trans hfails⟩

end Parser

end Descent
