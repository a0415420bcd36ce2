import Descent.Grammar.Store
import Descent.Proofs.Unlimited

namespace Descent

namespace Rule

theorem restoring_restoring (t u : Text) (r : Result) :
    restoring t (restoring u r) = restoring t r := by
  cases r <;> rfl

-- What a bind does with the result of its first parser.
def behind (invoke : Invocation) (env : Env) (next : Match → Next Parser) (t : Text) :
    Result → Run Result
  | .failed _ _ => return .fail t
  | .ok u m => do
      let p ← Run.lift (chosen env (next m))
      restoring t <$> invoke p u

variable {invoke above : Invocation} {env : Env} {next after : Match → Next Parser} {p q : Parser}
  {t u : Text} {m : Match}

theorem perform_attempt : perform invoke env (.attempt p) t = restoring t <$> invoke p t :=
  bind_pure_comp _ _

theorem perform_bind :
    perform invoke env (.bind p next) t = invoke p t >>= behind invoke env next t := by
  refine bind_congr fun r => ?_
  cases r with
  | failed u v => rfl
  | ok u m => exact bind_congr fun q => bind_pure_comp _ _

theorem behind_chosen (h : chosen env (next m) = .ok q) :
    behind invoke env next t (.ok u m) = restoring t <$> invoke q u := by
  have hnext : Run.lift (chosen env (next m)) = pure q := by
    rw [h]
    rfl
  rw [behind, hnext, pure_bind]

-- Whatever text was given back before, the one that is given back last remains.
theorem behind_restoring (s : Text) (r : Result) :
    behind invoke env next t (restoring s r) = restoring t <$> behind invoke env next u r := by
  cases r with
  | failed w v => exact (map_pure _ _).symm
  | ok w m =>
      rw [restoring, behind, behind, map_bind]
      refine bind_congr fun q => ?_
      rw [Functor.map_map]
      exact congrArg (· <$> invoke q w) (funext fun r => (restoring_restoring t u r).symm)

-- Two binds around each other come to the inner one with the other behind its second parser.
theorem behind_behind (h : chosen env (next m) = .ok q) :
    behind invoke env next t (.ok u m) >>= behind above env after t =
      restoring t <$> (invoke q u >>= behind above env after u) := by
  rw [behind_chosen h, bind_map_left, map_bind]
  exact bind_congr fun r => behind_restoring t r

end Rule

namespace Parser

open Rule (behind)

variable {env : Env} {next after : Match → Next Parser} {k : Match → Parser} {p q : Parser} {t : Text}
  {v : Match} {limit higher : Nat}

theorem outcome_attempt :
    ((attempt p).invoke env (limit + 1) t).outcome =
      (Rule.restoring t <$> p.invoke env limit t).outcome := by
  rw [invoke_succ, outcome_noted]
  exact congrArg Run.outcome Rule.perform_attempt

theorem outcome_bind :
    ((p.bind next).invoke env (limit + 1) t).outcome =
      (p.invoke env limit t >>= behind (invoke env limit) env next t).outcome := by
  rw [invoke_succ, outcome_noted]
  exact congrArg Run.outcome Rule.perform_bind

theorem outcome_bind_bind :
    (((p.bind next).bind after).invoke env (limit + 2) t).outcome =
      (p.invoke env limit t >>= fun r => behind (invoke env limit) env next t r >>=
        behind (invoke env (limit + 1)) env after t).outcome := by
  rw [outcome_bind, Run.outcome_bind, outcome_bind, ← Run.outcome_bind, bind_assoc]

-- The first parser succeeds wherever a parser comes to more than being cut off.
theorem outcome_bind_succeed (h : Rule.chosen env (next v) = .ok q) (limit : Nat) (t : Text) :
    (((succeed v).bind next).invoke env limit t).outcome = ((attempt q).invoke env limit t).outcome := by
  match limit with
  | 0 | 1 => rfl
  | limit + 2 =>
      rw [outcome_bind, outcome_attempt, Run.bind_of_ok _ (outcome_succeed ..), Rule.behind_chosen h]

theorem outcome_bind_result (p : Parser) (limit : Nat) (t : Text) :
    ((p.bind fun m => .parser (succeed m)).invoke env limit t).outcome =
      ((attempt p).invoke env limit t).outcome := by
  match limit with
  | 0 | 1 => rfl
  | limit + 2 =>
      rw [outcome_bind, outcome_attempt, ← bind_pure_comp, Run.outcome_bind, Run.outcome_bind]
      refine bind_congr fun r => ?_
      cases r with
      | failed u v => rfl
      | ok u m =>
          rw [Rule.behind_chosen (q := succeed m) rfl, ← bind_pure_comp,
            Run.bind_of_ok _ (outcome_succeed ..)]

theorem behind_foretells (hle : limit ≤ higher) (r : Result) :
    (behind (invoke env limit) env next t r).Foretells (behind (invoke env higher) env next t r) := by
  cases r with
  | failed u v => exact .refl _
  | ok u m => exact (Run.Foretells.refl _).bind fun q => (invoke_foretells hle q u).map _

-- The first parser stands two levels below a bind around a bind, and one level below the regrouped one;
-- with the last parser it is the other way round.
theorem bind_bind_foretells (h : ∀ m, Rule.chosen env (next m) = .ok (k m)) (limit : Nat) (t : Text) :
    (((p.bind next).bind after).invoke env limit t).Foretells
      ((p.bind fun m => .parser ((k m).bind after)).invoke env (limit + 1) t) := by
  match limit with
  | 0 | 1 => exact fun hcut => absurd rfl hcut
  | limit + 2 =>
      refine Run.Foretells.trans (.of_outcome_eq outcome_bind_bind)
        (Run.Foretells.trans ?_ (.of_outcome_eq outcome_bind.symm))
      refine (invoke_foretells (by omega) p t).bind fun r => ?_
      cases r with
      | failed u v => exact .refl _
      | ok u m =>
          rw [Rule.behind_behind (h m), Rule.behind_chosen (q := (k m).bind after) rfl]
          refine Run.Foretells.map ?_ _
          refine Run.Foretells.trans ?_ (.of_outcome_eq outcome_bind.symm)
          exact (invoke_foretells (by omega) (k m) u).bind (behind_foretells (Nat.le_refl _))

theorem regrouped_foretells (h : ∀ m, Rule.chosen env (next m) = .ok (k m)) (limit : Nat) (t : Text) :
    ((p.bind fun m => .parser ((k m).bind after)).invoke env limit t).Foretells
      (((p.bind next).bind after).invoke env (limit + 1) t) := by
  match limit with
  | 0 | 1 => exact fun hcut => absurd rfl hcut
  | limit + 2 =>
      refine Run.Foretells.trans (.of_outcome_eq outcome_bind)
        (Run.Foretells.trans ?_ (.of_outcome_eq outcome_bind_bind.symm))
      refine (Run.Foretells.refl _).bind fun r => ?_
      cases r with
      | failed u v => exact .refl _
      | ok u m =>
          rw [Rule.behind_behind (h m), Rule.behind_chosen (q := (k m).bind after) rfl]
          refine Run.Foretells.map ?_ _
          refine Run.Foretells.trans (.of_outcome_eq outcome_bind) ?_
          exact (invoke_foretells (by omega) (k m) u).bind (behind_foretells (by omega))

-- Succeeding with a match is neutral for binding on both sides, up to the text given back on failure, and
-- binds can be regrouped, whatever text the parsers report when they fail. The first two hold under every
-- nesting limit; a regrouped bind may need one level more. What repeats a parser that lengthens its text is
-- cut off by the same bound on rounds on both sides.
theorem bind_laws (h : ∀ m, Rule.chosen env (next m) = .ok (k m)) (p : Parser)
    (after : Match → Next Parser) (t : Text) :
    (∀ v limit, (((succeed v).bind next).invoke env limit t).outcome =
      ((attempt (k v)).invoke env limit t).outcome) ∧
    (∀ limit, ((p.bind fun m => .parser (succeed m)).invoke env limit t).outcome =
      ((attempt p).invoke env limit t).outcome) ∧
    (∃ o, ((p.bind next).bind after).ComesTo env t o ∧
      (p.bind fun m => .parser ((k m).bind after)).ComesTo env t o) ∧
    ∀ limit, (((p.bind next).bind after).invoke env limit t).Foretells
        ((p.bind fun m => .parser ((k m).bind after)).invoke env (limit + 1) t) ∧
      ((p.bind fun m => .parser ((k m).bind after)).invoke env limit t).Foretells
        (((p.bind next).bind after).invoke env (limit + 1) t) := by
  have hboth : ∃ o, ((p.bind next).bind after).ComesTo env t o ∧
      (p.bind fun m => .parser ((k m).bind after)).ComesTo env t o :=
    exists_comesTo_both (fun limit => ⟨_, bind_bind_foretells h limit t⟩)
      fun limit => ⟨_, regrouped_foretells h limit t⟩
  exact ⟨fun v limit => outcome_bind_succeed (h v) limit t, fun limit => outcome_bind_result p limit t,
    hboth, fun limit => ⟨bind_bind_foretells h limit t, regrouped_foretells h limit t⟩⟩

-- A mark with a number behind it, the number read by a parser that is built on every call, and at the end
-- a parser that fails behind the character it looks at.
def marked : Match → Next Parser :=
  fun _ => .build (.unary .many1 (.stock .natural))

def ending : Match → Next Parser :=
  fun _ => .parser (custom .sloppy "sloppy")

attribute [local instance] CharNames.nameless

theorem bind_laws_marked :
    (∀ m, Rule.chosen (Store.empty.env false) (marked m) = .ok (many1 natural)) ∧
      (((char ':').bind marked).bind ending).ComesTo (Store.empty.env false) [':', '1', '2', ';']
        (.ok (.fail [':', '1', '2', ';'])) ∧
      ((char ':').bind fun _ => .parser ((many1 natural).bind ending)).ComesTo (Store.empty.env false)
        [':', '1', '2', ';'] (.ok (.fail [':', '1', '2', ';'])) := by
  have hmarked : ∀ m, Rule.chosen (Store.empty.env false) (marked m) = .ok (many1 natural) := fun _ => rfl
  have hrun : ((((char ':').bind marked).bind ending).invoke (Store.empty.env false) 4
      [':', '1', '2', ';']).outcome = .ok (.fail [':', '1', '2', ';']) := rfl
  have hfails := ComesTo.of_outcome hrun (by simp)
  obtain ⟨-, -, ⟨o, hleft, hright⟩, -⟩ := bind_laws hmarked (char ':') ending [':', '1', '2', ';']
  obtain rfl := hleft.unique hfails
  exact ⟨hmarked, hfails, hright⟩

end Parser

end Descent
