import Descent.Proofs.Consumption
import Descent.Proofs.Ending
import Descent.Proofs.Outcomes
import Mathlib.Data.Set.Finite.List

namespace Descent

-- What is asked of each rule of a grammar. Parsers written by hand leave suffixes, references are
-- listed, continuations answer without references, and what is raised from outside is admitted.
structure Rule.Orderly (env : Env) (rules : List Reference) (admitted : Fault → Prop)
    (rule : Rule Parser) : Prop where
  keeps : rule.KeepsToText
  listed : ∀ ref, rule.reference? = some ref → ref ∈ rules
  continued : ∀ q, rule.Continues env q → q.ReferenceFree env
  raises : ∀ e, rule.Raises env e → admitted e

-- Nothing in a rule is from outside: no reference, no continuation and no function of a caller's.
def Rule.SelfContained : Rule Parser → Prop
  | .bind _ _ | .custom _ | .forward _ _ | .follow _ _ | .lookUp _ => False
  | .sequence _ (.custom _) => False
  | .sequence items (.nth i) => i < items.length
  | _ => True

namespace Rule

variable {env : Env} {rules : List Reference} {admitted : Fault → Prop} {rule : Rule Parser}

theorem SelfContained.not_raises (h : rule.SelfContained) (e : Fault) : ¬rule.Raises env e := by
  cases rule with
  | sequence items reducer =>
      rintro ⟨ms, hlength, he⟩
      cases reducer with
      | all => cases he
      | custom f => exact h
      | nth i =>
          have hi : i < ms.length := hlength ▸ h
          simp [Reducer.apply, List.getElem?_eq_getElem hi] at he
  | bind first next => exact h.elim
  | forward slot name => exact h.elim
  | follow slot name => exact h.elim
  | lookUp id => exact h.elim
  | custom f => exact h.elim
  | _ => exact id

theorem Orderly.of_selfContained (h : rule.SelfContained) : rule.Orderly env rules admitted where
  keeps := by
    cases rule with
    | custom f => exact h.elim
    | _ => trivial
  listed ref href := by
    cases rule with
    | forward slot name => exact h.elim
    | follow slot name => exact h.elim
    | lookUp id => exact h.elim
    | _ => cases href
  continued q hq := by
    cases rule with
    | bind first next => exact h.elim
    | _ => exact hq.elim
  raises e he := absurd he (h.not_raises e)

theorem orderly_forward {slot : Nat} {name : String} {body : Parser}
    (hslot : env.target? slot = some body) (hmem : .slot slot ∈ rules) :
    (Rule.forward slot name).Orderly env rules admitted where
  keeps := trivial
  listed := by
    rintro ref ⟨⟩
    exact hmem
  continued _ hq := hq.elim
  raises := by
    rintro e ⟨hnone, -⟩
    simp [hslot] at hnone

end Rule

namespace Parser

-- The same of a whole grammar, together with an estimate of the parsers that can succeed without
-- taking anything.
structure Orderly (env : Env) (rules : List Reference) (admitted : Fault → Prop)
    (mayStay : Parser → Prop) (p : Parser) : Prop where
  throughout : p.Throughout env (fun _ => True) (Rule.Orderly env rules admitted)
  stays : ∀ q, p.Reaches env (fun _ => True) q → ∀ limit t m,
    (q.invoke env limit t).outcome = .ok (.ok t m) → mayStay q

variable {env : Env} {rules : List Reference} {admitted : Fault → Prop}
  {mayStay : Parser → Prop} {p q body : Parser} {ref : Reference} {t : Text}

theorem Orderly.call (h : p.Orderly env rules admitted mayStay)
    (hq : p.rule.Calls env (fun _ => True) q) : q.Orderly env rules admitted mayStay :=
  ⟨h.throughout.call hq, fun r hr => h.stays r (hr.head hq)⟩

theorem Orderly.rest_suffix (h : p.Orderly env rules admitted mayStay) {limit : Nat}
    {rest : Text} {m : Match} (hok : (p.invoke env limit t).outcome = .ok (.ok rest m)) :
    rest <:+ t :=
  invoke_rest_suffix (h.throughout.mono fun _ => Rule.Orderly.keeps) hok

theorem endsOn_of_supported (hcut : ¬admitted .nestingExceeded)
    (h : p.rule.Supported env admitted mayStay t) : p.EndsOn env admitted t where
  rising _ _ hle := invoke_upTo hle p t
  halts := by
    obtain ⟨n, hn⟩ := (Rule.perform_ends hcut h).halts
    refine ⟨n + 1, fun e he => hn e ?_⟩
    rwa [invoke_succ, outcome_noted] at he

-- Without references the parts of a parser decide, on whatever text.
theorem ReferenceFree.endsOn (hcut : ¬admitted .nestingExceeded) (hfree : p.ReferenceFree env)
    (hp : p.Orderly env rules admitted mayStay) (t : Text) : p.EndsOn env admitted t := by
  induction hfree generalizing t with
  | @intro p href _ ih =>
      have hcalls : ∀ q, p.rule.Calls env (fun _ => True) q → ∀ u, q.EndsOn env admitted u :=
        fun q hq => ih q hq (hp.call hq)
      have hsupported : p.rule.Supported env admitted mayStay t := {
        raises := hp.throughout.here.raises
        suffix := fun q hq _ _ _ _ => (hp.call hq).rest_suffix
        stays := fun q hq => hp.stays q (.single hq)
        opened := fun q hq => hcalls q hq.calls t
        continued := fun q hq => hcalls q hq.calls t
        referred := fun ref q hq => by simp [href] at hq
        shorter := fun q hq u _ => hcalls q hq u }
      exact endsOn_of_supported hcut hsupported

-- On one text, given all shorter ones, a parser comes to an end if the rules at its head positions
-- do.
theorem endsOn_of_heads (hcut : ¬admitted .nestingExceeded)
    (hp : p.Orderly env rules admitted mayStay)
    (hshorter : ∀ q : Parser, q.Orderly env rules admitted mayStay → ∀ u : Text,
      u.length < t.length → q.EndsOn env admitted u)
    (hheads : ∀ ref, p.HeadReaches mayStay ref → ∀ body, env.body? ref = some body →
      body.EndsOn env admitted t) : p.EndsOn env admitted t := by
  induction hsize : sizeOf p using Nat.strong_induction_on generalizing p with
  | _ size ih =>
      have hsupported : p.rule.Supported env admitted mayStay t := {
        raises := hp.throughout.here.raises
        suffix := fun q hq _ _ _ _ => (hp.call hq).rest_suffix
        stays := fun q hq => hp.stays q (.single hq)
        opened := fun q hq =>
          ih (sizeOf q) (hsize ▸ sizeOf_lt_of_opens hq) (hp.call hq.calls)
            (fun ref href => hheads ref (.opens hq href)) rfl
        continued := fun q hq =>
          (hp.throughout.here.continued q hq).endsOn hcut (hp.call hq.calls) t
        referred := fun ref q href hq => hheads ref (.here href) q hq
        shorter := fun q hq => hshorter q (hp.call hq) }
      exact endsOn_of_supported hcut hsupported

theorem HeadReaches.mem_rules (h : p.HeadReaches mayStay ref)
    (hp : p.Orderly env rules admitted mayStay) : ref ∈ rules := by
  induction h with
  | here href => exact hp.throughout.here.listed _ href
  | opens hq _ ih => exact ih (hp.call hq.calls)

theorem HeadReaches.orderly_body (h : p.HeadReaches mayStay ref)
    (hp : p.Orderly env rules admitted mayStay) (hbody : env.body? ref = some body) :
    body.Orderly env rules admitted mayStay := by
  induction h with
  | here href => exact hp.call (Rule.calls_of_body href hbody)
  | opens hq _ ih => exact ih (hp.call hq.calls) hbody

end Parser

namespace Env

variable {env : Env} {rules : List Reference} {admitted : Fault → Prop}
  {mayStay : Parser → Prop} {t : Text}

-- Finitely many rules without a cycle of head positions can be put in order.
theorem wellFounded_of_acyclic
    (h : ∀ ref ∈ rules, ¬Relation.TransGen (env.HeadReaches mayStay) ref ref) :
    WellFounded fun a b : {ref // ref ∈ rules} =>
      Relation.TransGen (env.HeadReaches mayStay) b.1 a.1 := by
  have htrans : IsTrans {ref // ref ∈ rules} fun a b =>
      Relation.TransGen (env.HeadReaches mayStay) b.1 a.1 :=
    ⟨fun _ _ _ hab hbc => hbc.trans hab⟩
  have hirrefl : Std.Irrefl fun a b : {ref // ref ∈ rules} =>
      Relation.TransGen (env.HeadReaches mayStay) b.1 a.1 :=
    ⟨fun ref => h ref.1 ref.2⟩
  exact Finite.wellFounded_of_trans_of_irrefl _

theorem body_endsOn (hcut : ¬admitted .nestingExceeded)
    (hacyclic : ∀ ref ∈ rules, ¬Relation.TransGen (env.HeadReaches mayStay) ref ref)
    (hshorter : ∀ q : Parser, q.Orderly env rules admitted mayStay → ∀ u : Text,
      u.length < t.length → q.EndsOn env admitted u) (ref : {ref // ref ∈ rules}) {body : Parser}
    (hbody : env.body? ref = some body) (hp : body.Orderly env rules admitted mayStay) :
    body.EndsOn env admitted t := by
  induction ref using (wellFounded_of_acyclic hacyclic).induction generalizing body with
  | _ ref ih =>
      refine Parser.endsOn_of_heads hcut hp hshorter fun next hnext body' hbody' => ?_
      have hstep : env.HeadReaches mayStay ref.1 next := ⟨body, hbody, hnext⟩
      exact ih ⟨next, hnext.mem_rules hp⟩ (.single hstep) hbody' (hnext.orderly_body hp hbody')

end Env

namespace Parser

variable {env : Env} {rules : List Reference} {admitted : Fault → Prop}
  {mayStay : Parser → Prop} {p : Parser}

theorem endsOn_of_acyclic (hcut : ¬admitted .nestingExceeded)
    (hacyclic : ∀ ref ∈ rules, ¬Relation.TransGen (env.HeadReaches mayStay) ref ref)
    (hp : p.Orderly env rules admitted mayStay) (t : Text) : p.EndsOn env admitted t := by
  induction hlength : t.length using Nat.strong_induction_on generalizing p t with
  | _ n ih =>
      have hshorter : ∀ q : Parser, q.Orderly env rules admitted mayStay → ∀ u : Text,
          u.length < t.length → q.EndsOn env admitted u :=
        fun q hq u hu => ih u.length (hlength ▸ hu) hq u rfl
      refine endsOn_of_heads hcut hp hshorter fun ref href body hbody => ?_
      exact Env.body_endsOn hcut hacyclic hshorter ⟨ref, href.mem_rules hp⟩ hbody
        (href.orderly_body hp hbody)

end Parser

instance finite_char : Finite Char :=
  Finite.of_injective (fun c : Char => c.val.toFin) fun _ _ h =>
    Char.ext (UInt32.toFin_inj.mp h)

-- There are finitely many texts of each length, so that what holds from somewhere on for each text
-- holds from somewhere on for each length.
theorem Text.exists_bound {holds : Text → Nat → Prop}
    (h : ∀ t, ∃ n, ∀ k, n ≤ k → holds t k) :
    ∃ bound : Nat → Nat, ∀ t k, bound t.length ≤ k → holds t k := by
  choose n hn using h
  have htop : ∀ length, ∃ top, ∀ t : Text, t.length = length → n t ≤ top := by
    intro length
    obtain ⟨top, htop⟩ := ((List.finite_length_eq Char length).image n).bddAbove
    exact ⟨top, fun t ht => htop ⟨t, ht, rfl⟩⟩
  choose bound hbound using htop
  exact ⟨bound, fun t k hk => hn t k ((hbound t.length t rfl).trans hk)⟩

-- What a run that comes to its end does not stop with.
def Fault.Ordinary (e : Fault) : Prop :=
  e ≠ .nestingExceeded ∧ e ≠ .endlessRepetition

namespace Parser

variable {env : Env} {rules : List Reference} {mayStay : Parser → Prop} {p : Parser}

-- Without left recursion there is a bound on the nesting for each length of the text. Above it the
-- limit changes nothing, and is never reported; nor does a repetition go on endlessly.
theorem invoke_bounded (hp : p.Orderly env rules Fault.Ordinary mayStay)
    (hacyclic : ∀ ref ∈ rules, ¬Relation.TransGen (env.HeadReaches mayStay) ref ref) :
    ∃ bound : Nat → Nat, ∀ t limit, bound t.length ≤ limit →
      p.invoke env limit t = p.invoke env (bound t.length) t ∧
      (p.invoke env limit t).outcome ≠ .error .nestingExceeded ∧
      (p.invoke env limit t).outcome ≠ .error .endlessRepetition ∧
      ∀ runner : Runner, (runner.run env limit p t).outcome ≠ .error .recursion ∧
        (runner.parse env limit p t).outcome ≠ .error .recursion := by
  have hcut : ¬Fault.Ordinary .nestingExceeded := fun h => h.1 rfl
  have hsettled : ∀ t, ∃ n, ∀ k, n ≤ k →
      (∀ j, k ≤ j → p.invoke env j t = p.invoke env k t) ∧
        ∀ e, (p.invoke env k t).outcome = .error e → e.Ordinary := by
    intro t
    obtain ⟨n, hn, hstable⟩ := (endsOn_of_acyclic hcut hacyclic hp t).settled hcut
    refine ⟨n, fun k hk => ⟨fun j hj => ?_, fun e he => hn e ?_⟩⟩
    · rw [hstable k hk, hstable j (hk.trans hj)]
    · rwa [hstable k hk] at he
  obtain ⟨bound, hbound⟩ := Text.exists_bound hsettled
  refine ⟨bound, fun t limit hlimit => ?_⟩
  obtain ⟨-, hordinary⟩ := hbound t limit hlimit
  have hnesting : (p.invoke env limit t).outcome ≠ .error .nestingExceeded :=
    fun h => (hordinary _ h).1 rfl
  have hendless : (p.invoke env limit t).outcome ≠ .error .endlessRepetition :=
    fun h => (hordinary _ h).2 rfl
  have hsuffix : ∀ result, (p.invoke env limit t).outcome = .ok result → result.rest <:+ t :=
    fun _ => invoke_rest_suffix (hp.throughout.mono fun _ => Rule.Orderly.keeps)
  exact ⟨(hbound t (bound t.length) le_rfl).1 limit hlimit, hnesting, hendless,
    fun _ => Runner.outcome_ne_recursion hnesting hsuffix⟩

-- A character is never taken for nothing.
theorem not_char_of_stays {p : Parser} {limit : Nat} {t : Text} {m : Match}
    (h : (p.invoke env limit t).outcome = .ok (.ok t m)) (c : Char) : p.rule ≠ .char c := by
  intro hrule
  cases limit with
  | zero => cases h
  | succ limit =>
      rw [invoke_succ, outcome_noted, hrule] at h
      have htaken : Rule.takeChar c t = .ok t m := Except.ok.inj h
      rcases Rule.takeChar_cases c t with hfail | ⟨rest, rfl, hok⟩
      · rw [hfail] at htaken
        cases htaken
      · rw [hok] at htaken
        have hrest : rest = c :: rest := (Result.ok.inj htaken).1
        simpa using congrArg List.length hrest

end Parser

-- Rules whose head positions lead downwards only do not come back to themselves.
theorem Env.acyclic_of_rank {env : Env} {mayStay : Parser → Prop} (rank : Reference → Nat)
    (h : ∀ a b, env.HeadReaches mayStay a b → rank b < rank a) (ref : Reference) :
    ¬Relation.TransGen (env.HeadReaches mayStay) ref ref := by
  have hdown : ∀ a b, Relation.TransGen (env.HeadReaches mayStay) a b → rank b < rank a := by
    intro a b hab
    induction hab with
    | single hstep => exact h _ _ hstep
    | tail _ hstep ih => exact (h _ _ hstep).trans ih
  intro hcycle
  have hlt := hdown ref ref hcycle
  omega

namespace Parser

-- A character stands in the way of what comes behind it.
def notChar (p : Parser) : Prop :=
  ∀ c, p.rule ≠ .char c

theorem not_headReaches_char {c : Char} {mayStay : Parser → Prop} {ref : Reference} :
    ¬(char c).HeadReaches mayStay ref := by
  intro h
  cases h with
  | here href => cases href
  | opens hq _ => exact hq

theorem not_headReaches_of_char_first {c : Char} {items : List Parser} {reducer : Reducer}
    {p : Parser} {ref : Reference} (hrule : p.rule = .sequence (char c :: items) reducer) :
    ¬p.HeadReaches notChar ref := by
  intro h
  cases h with
  | here href => rw [hrule] at href; cases href
  | opens hq hreach =>
      rw [hrule] at hq
      obtain ⟨before, after, hitems, hbefore⟩ := hq
      cases before with
      | nil =>
          obtain ⟨rfl, -⟩ := List.cons.inj hitems
          exact not_headReaches_char hreach
      | cons first before =>
          obtain ⟨rfl, -⟩ := List.cons.inj hitems
          exact hbefore _ List.mem_cons_self c rfl

-- Two rules that refer to each other: an item is a mark or a group, and a group is a list of items in
-- parentheses behind any number of blanks that need not be there.
def item : Parser :=
  choice [char 'x', forward 1 "group"]

def itemGroup : Parser :=
  sequence [char '(', many (maybe (char ' ')), many (forward 0 "item"), char ')'] .all

def itemEnv : Env :=
  .ofTargets [item, itemGroup]

theorem item_orderly :
    (forward 0 "item").Orderly itemEnv [.slot 0, .slot 1] Fault.Ordinary notChar := by
  refine ⟨?_, fun q _ limit t m h => not_char_of_stays h⟩
  let blanks := many (maybe (char ' '))
  let items := many (forward 0 "item")
  let members := [forward 0 "item", item, char 'x', forward 1 "group", itemGroup, char '(', blanks,
    maybe (char ' '), char ' ', items, char ')']
  refine throughout_of_closed members (by simp [members]) ?_ ?_
  · have hitem : itemEnv.target? 0 = some item := rfl
    have hgroup : itemEnv.target? 1 = some itemGroup := rfl
    simp only [members, List.forall_mem_cons]
    have hown : ∀ q : Parser, q.rule.SelfContained →
        q.rule.Orderly itemEnv [.slot 0, .slot 1] Fault.Ordinary := fun _ => .of_selfContained
    exact ⟨Rule.orderly_forward hitem (by simp), hown _ trivial, hown _ trivial,
      Rule.orderly_forward hgroup (by simp), hown _ trivial, hown _ trivial, hown _ trivial,
      hown _ trivial, hown _ trivial, hown _ trivial, hown _ trivial, by simp⟩
  · have hchoice : [char 'x', forward 1 "group"] ⊆ members := by simp [members]
    have hgroup : [char '(', blanks, items, char ')'] ⊆ members := by simp [members]
    simp only [members, List.forall_mem_cons]
    refine ⟨?_, fun r hr => hchoice hr, fun _ hr => hr.elim, ?_, fun r hr => hgroup hr,
      fun _ hr => hr.elim, ?_, ?_, fun _ hr => hr.elim, ?_, fun _ hr => hr.elim, by simp⟩
    all_goals
      rintro r ⟨⟩
      simp [blanks, items]

theorem item_headReaches {a b : Reference} (h : itemEnv.HeadReaches notChar a b) :
    a = .slot 0 ∧ b = .slot 1 := by
  obtain ⟨body, hbody, hreach⟩ := h
  have hgroup : ¬itemGroup.HeadReaches notChar b := not_headReaches_of_char_first rfl
  match a with
  | .id name => cases hbody
  | .slot 0 =>
      obtain rfl : item = body := Option.some.inj hbody
      cases hreach with
      | here href => cases href
      | opens hq hreach =>
          rcases List.mem_pair.mp hq with rfl | rfl
          · exact (not_headReaches_char hreach).elim
          · cases hreach with
            | here href => exact ⟨rfl, (Option.some.inj href).symm⟩
            | opens hr _ => exact hr.elim
  | .slot 1 =>
      obtain rfl : itemGroup = body := Option.some.inj hbody
      exact (hgroup hreach).elim
  | .slot (n + 2) => cases hbody

theorem invoke_bounded_item :
    ∃ bound : Nat → Nat, ∀ t limit, bound t.length ≤ limit →
      (forward 0 "item").invoke itemEnv limit t =
        (forward 0 "item").invoke itemEnv (bound t.length) t ∧
      ((forward 0 "item").invoke itemEnv limit t).outcome ≠ .error .nestingExceeded ∧
      ((forward 0 "item").invoke itemEnv limit t).outcome ≠ .error .endlessRepetition ∧
      ∀ runner : Runner,
        (runner.run itemEnv limit (forward 0 "item") t).outcome ≠ .error .recursion ∧
        (runner.parse itemEnv limit (forward 0 "item") t).outcome ≠ .error .recursion := by
  let rank : Reference → Nat := fun ref => if ref = .slot 0 then 1 else 0
  have hdown : ∀ a b, itemEnv.HeadReaches notChar a b → rank b < rank a := by
    intro a b h
    obtain ⟨rfl, rfl⟩ := item_headReaches h
    decide
  exact invoke_bounded item_orderly fun ref _ => Env.acyclic_of_rank rank hdown ref

end Parser

end Descent
