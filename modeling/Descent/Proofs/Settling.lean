import Descent.Proofs.Consumption

namespace Descent

namespace Rule

variable {answers : Answers} {invoke : Invocation} {p : Parser} {ps : List Parser} {t : Text}

theorem runAll_of_all {o : Option (Text × List Match)} (h : answers.All ps t o)
    (hans : ∀ q u s, answers q u s → (invoke q u).outcome = .ok s) :
    (runAll invoke ps t).outcome = .ok o := by
  induction h with
  | done t => rfl
  | failed hp => exact Run.outcome_bind_eq_ok.mpr ⟨_, hans _ _ _ hp, rfl⟩
  | broken hp _ ih =>
      exact Run.outcome_bind_eq_ok.mpr
        ⟨_, hans _ _ _ hp, Run.outcome_bind_eq_ok.mpr ⟨_, ih, rfl⟩⟩
  | next hp _ ih =>
      exact Run.outcome_bind_eq_ok.mpr
        ⟨_, hans _ _ _ hp, Run.outcome_bind_eq_ok.mpr ⟨_, ih, rfl⟩⟩

theorem runFirst_of_first {r : Result} (h : answers.First ps t r)
    (hans : ∀ q u s, answers q u s → (invoke q u).outcome = .ok s) :
    (runFirst invoke ps t).outcome = .ok r := by
  induction h with
  | none t => rfl
  | here hp => exact Run.outcome_bind_eq_ok.mpr ⟨_, hans _ _ _ hp, rfl⟩
  | later hp _ ih => exact Run.outcome_bind_eq_ok.mpr ⟨_, hans _ _ _ hp, ih⟩

-- Each round that moves shortens the text, so that there are rounds enough.
theorem runRepeated_of_repeated {last : Text} {ms : List Match} {fuel : Nat}
    (h : answers.Repeated p t last ms)
    (hans : ∀ u s, answers p u s → (invoke p u).outcome = .ok s ∧ s.rest <:+ u)
    (hfuel : t.length < fuel) : (runRepeated invoke p fuel t).outcome = .ok (last, ms) := by
  induction h generalizing fuel with
  | stop hp =>
      obtain ⟨fuel, rfl⟩ : ∃ n, fuel = n + 1 := ⟨fuel - 1, by omega⟩
      exact Run.outcome_bind_eq_ok.mpr ⟨_, (hans _ _ hp).1, rfl⟩
  | idle hp =>
      obtain ⟨fuel, rfl⟩ : ∃ n, fuel = n + 1 := ⟨fuel - 1, by omega⟩
      refine Run.outcome_bind_eq_ok.mpr ⟨_, (hans _ _ hp).1, ?_⟩
      simp
  | @step t u last m ms hp hmoved _ ih =>
      obtain ⟨fuel, rfl⟩ : ∃ n, fuel = n + 1 := ⟨fuel - 1, by omega⟩
      have hlen : u.length < t.length := Text.length_lt_of_suffix (hans _ _ hp).2 hmoved
      refine Run.outcome_bind_eq_ok.mpr ⟨_, (hans _ _ hp).1, ?_⟩
      simp only [hmoved, if_false]
      exact Run.outcome_bind_eq_ok.mpr ⟨_, ih (by omega), rfl⟩

theorem repeated_of_repeated {last : Text} {ms : List Match} (h : answers.Repeated p t last ms)
    (hans : ∀ u s, answers p u s → (invoke p u).outcome = .ok s ∧ s.rest <:+ u) :
    (repeated invoke p t).outcome = .ok (last, ms) :=
  runRepeated_of_repeated h hans (by unfold roundsFor; omega)

theorem runTarget_of_target {env : Env} {slot : Nat} {name : String} {r : Result}
    (htarget : env.target? slot = some p) (h : (invoke p t).outcome = .ok r) :
    (runTarget invoke env slot name t).outcome = .ok r := by
  simpa [runTarget, htarget] using h

theorem perform_of_gives {env : Env} {rule : Rule Parser} {r : Result}
    (h : rule.Gives env answers t r)
    (hans : ∀ q u s, answers q u s → (invoke q u).outcome = .ok s ∧ s.rest <:+ u) :
    (perform invoke env rule t).outcome = .ok r := by
  have hok : ∀ q u s, answers q u s → (invoke q u).outcome = .ok s :=
    fun q u s hs => (hans q u s hs).1
  cases h with
  | char c t => rfl
  | pattern use p t => rfl
  | symbol literal t => rfl
  | whiteSpace t => rfl
  | succeed m t => rfl
  | custom hf => exact hf
  | choice hfirst => exact runFirst_of_first hfirst hok
  | forward hslot hp => exact runTarget_of_target hslot (hok _ _ _ hp)
  | follow hslot hp => exact runTarget_of_target hslot (hok _ _ _ hp)
  | lookUp hid hp => exact Run.outcome_bind_eq_ok.mpr ⟨_, hid, hok _ _ _ hp⟩
  | sequence hall hm =>
      exact Run.outcome_bind_eq_ok.mpr
        ⟨_, runAll_of_all hall hok, Run.outcome_bind_eq_ok.mpr ⟨_, hm, rfl⟩⟩
  | sequenceBroken hall =>
      exact Run.outcome_bind_eq_ok.mpr ⟨_, runAll_of_all hall hok, rfl⟩
  | many hs => exact Run.outcome_bind_eq_ok.mpr ⟨_, repeated_of_repeated hs (hans _), rfl⟩
  | many1 hs => exact Run.outcome_bind_eq_ok.mpr ⟨_, repeated_of_repeated hs (hans _), rfl⟩
  | many1Absent hs =>
      exact Run.outcome_bind_eq_ok.mpr ⟨_, repeated_of_repeated hs (hans _), rfl⟩
  | sepBy he hmoved hs =>
      refine Run.outcome_bind_eq_ok.mpr ⟨_, hok _ _ _ he, ?_⟩
      simp only [hmoved, if_false]
      exact Run.outcome_bind_eq_ok.mpr ⟨_, repeated_of_repeated hs (hans _), rfl⟩
  | sepByIdle he =>
      refine Run.outcome_bind_eq_ok.mpr ⟨_, hok _ _ _ he, ?_⟩
      simp
  | bind hfirst hnext hp =>
      exact Run.outcome_bind_eq_ok.mpr ⟨_, hok _ _ _ hfirst,
        Run.outcome_bind_eq_ok.mpr ⟨_, hnext, Run.outcome_bind_eq_ok.mpr ⟨_, hok _ _ _ hp, rfl⟩⟩⟩
  | attempt hp => exact Run.outcome_bind_eq_ok.mpr ⟨_, hok _ _ _ hp, rfl⟩
  | maybe hp => exact Run.outcome_bind_eq_ok.mpr ⟨_, hok _ _ _ hp, rfl⟩
  | maybeAbsent hp => exact Run.outcome_bind_eq_ok.mpr ⟨_, hok _ _ _ hp, rfl⟩
  | sepByAbsent hp => exact Run.outcome_bind_eq_ok.mpr ⟨_, hok _ _ _ hp, rfl⟩
  | label hp => exact Run.outcome_bind_eq_ok.mpr ⟨_, hok _ _ _ hp, rfl⟩
  | labelFailed hp => exact Run.outcome_bind_eq_ok.mpr ⟨_, hok _ _ _ hp, rfl⟩
  | lexeme hp => exact Run.outcome_bind_eq_ok.mpr ⟨_, hok _ _ _ hp, rfl⟩
  | lexemeFailed hp => exact Run.outcome_bind_eq_ok.mpr ⟨_, hok _ _ _ hp, rfl⟩
  | bindFailed hp => exact Run.outcome_bind_eq_ok.mpr ⟨_, hok _ _ _ hp, rfl⟩

end Rule

-- A parser gives a result under every nesting limit from some level on, and leaves a suffix.
structure Settles (env : Env) (level : Nat) (p : Parser) (t : Text) (r : Result) : Prop where
  outcome : ∀ limit, level ≤ limit → (p.invoke env limit t).outcome = .ok r
  suffix : r.rest <:+ t

variable {env : Env} {level : Nat} {p : Parser} {t : Text} {r s : Result}

theorem Settles.mono {higher : Nat} (h : Settles env level p t r) (hle : level ≤ higher) :
    Settles env higher p t r :=
  ⟨fun limit hlimit => h.outcome limit (Nat.le_trans hle hlimit), h.suffix⟩

theorem Settles.unique {low high : Nat} (hr : Settles env low p t r) (hs : Settles env high p t s) :
    r = s := by
  have hleft := hr.outcome (max low high) (Nat.le_max_left low high)
  have hright := hs.outcome (max low high) (Nat.le_max_right low high)
  exact Except.ok.inj (hleft.symm.trans hright)

theorem settles_of_gives (hrule : p.rule.KeepsToText)
    (h : p.rule.Gives env (Settles env level) t r) : Settles env (level + 1) p t r where
  outcome limit hlimit := by
    obtain ⟨limit, rfl⟩ : ∃ n, limit = n + 1 := ⟨limit - 1, by omega⟩
    rw [Parser.invoke_succ, Parser.outcome_noted]
    exact Rule.perform_of_gives h fun q u s hs => ⟨hs.outcome limit (by omega), hs.suffix⟩
  suffix := h.rest_suffix hrule fun _ _ _ hs => hs.suffix

end Descent
