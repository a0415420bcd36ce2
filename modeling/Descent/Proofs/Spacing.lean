import Descent.Proofs.Alike
import Descent.Proofs.Reach
import Descent.Proofs.Taking

namespace Descent

-- Tokens and values, composed in any way. A token has at least one character.
def Rule.TokenLevel : Rule Parser → Prop
  | .symbol literal => literal ≠ []
  | .char _ | .pattern _ _ | .whiteSpace | .lexeme _ | .custom _ => False
  | _ => True

-- Two places reached from two texts: the texts themselves, or one place behind their blanks.
def Text.Abreast (s t u v : Text) : Prop :=
  (u = s ∧ v = t) ∨ (u = v ∧ u.length < (skipBlanks s).length)

namespace Text

variable {s t u v w x : Text}

theorem length_skipBlanks_le (t : Text) : (skipBlanks t).length ≤ t.length :=
  (skipBlanks_suffix t).length_le

theorem abreast_start (s t : Text) : Abreast s t s t :=
  .inl ⟨rfl, rfl⟩

theorem Abreast.skipBlanks_eq (hst : skipBlanks s = skipBlanks t) (h : Abreast s t u v) :
    skipBlanks u = skipBlanks v := by
  rcases h with ⟨rfl, rfl⟩ | ⟨rfl, -⟩
  · exact hst
  · rfl

theorem Abreast.trans (h : Abreast s t u v) (hnext : Abreast u v w x) : Abreast s t w x := by
  rcases h with ⟨rfl, rfl⟩ | ⟨rfl, hu⟩
  · exact hnext
  · rcases hnext with ⟨rfl, rfl⟩ | ⟨rfl, hw⟩
    · exact .inr ⟨rfl, hu⟩
    · have hle := length_skipBlanks_le u
      exact .inr ⟨rfl, by omega⟩

-- Both runs have moved, or neither has.
theorem Abreast.eq_start_iff (hst : skipBlanks s = skipBlanks t) (h : Abreast s t u v) :
    u = s ↔ v = t := by
  rcases h with ⟨rfl, rfl⟩ | ⟨rfl, hu⟩
  · simp
  · have hs := length_skipBlanks_le s
    have ht := length_skipBlanks_le t
    constructor
    · rintro rfl
      omega
    · rintro rfl
      rw [hst] at hu
      omega

-- Two runs that have moved have met.
theorem Abreast.of_moved (hst : skipBlanks s = skipBlanks t) (h : Abreast s t u v) (hu : u ≠ s) :
    u = v ∧ u.length < s.length ∧ u.length < t.length := by
  rcases h with ⟨rfl, -⟩ | ⟨rfl, hmoved⟩
  · exact absurd rfl hu
  · have hs := length_skipBlanks_le s
    have ht := length_skipBlanks_le t
    rw [← hst] at ht
    exact ⟨rfl, by omega, by omega⟩

end Text

-- Equal values at places that are abreast.
inductive Abreast {α : Type} (s t : Text) : Text × α → Text × α → Prop
  | intro {u v : Text} {a : α} : Text.Abreast s t u v → Abreast s t (u, a) (v, a)

inductive Result.Abreast (s t : Text) : Result → Result → Prop
  | ok {u v : Text} {m : Match} : Text.Abreast s t u v → Abreast s t (.ok u m) (.ok v m)
  | failed {u v : Text} {m n : Match} : Abreast s t (.failed u m) (.failed v n)

theorem Result.Abreast.trans {s t u v : Text} {x y : Result} (h : Text.Abreast s t u v)
    (hnext : Result.Abreast u v x y) : Result.Abreast s t x y := by
  cases hnext with
  | ok hrest => exact .ok (h.trans hrest)
  | failed => exact .failed

theorem Result.Abreast.restoring {s t u v : Text} {x y : Result} (h : Result.Abreast s t x y) :
    Result.Abreast s t (Rule.restoring u x) (Rule.restoring v y) := by
  cases h with
  | ok hrest => exact .ok hrest
  | failed => exact .failed

-- A parser that does not see the blanks in front of its text.
def Blind (invoke : Invocation) (p : Parser) : Prop :=
  ∀ s t, Text.skipBlanks s = Text.skipBlanks t →
    (invoke p s).Alike (Result.Abreast s t) (invoke p t)

namespace Rule

open Text (skipBlanks)

variable {invoke : Invocation} {env : Env} {s t : Text} {p : Parser} {ps : List Parser}

theorem takeSymbol_abreast {literal : Text} (hne : literal ≠ []) (hst : skipBlanks s = skipBlanks t) :
    Result.Abreast s t (takeSymbol literal s) (takeSymbol literal t) := by
  by_cases hfront : literal <+: skipBlanks t
  · obtain ⟨behind, hbehind⟩ := hfront
    have hlen := congrArg List.length hbehind
    have hpos := List.length_pos_iff.mpr hne
    have hle := Text.length_skipBlanks_le behind
    rw [List.length_append] at hlen
    have hmoved : (skipBlanks behind).length < (skipBlanks s).length := by rw [hst]; omega
    simpa [takeSymbol, hst, ← hbehind] using Result.Abreast.ok (.inr ⟨rfl, hmoved⟩)
  · have hfails : Result.Abreast s t (.fail s) (.fail t) := .failed
    simpa [takeSymbol, hst, hfront] using hfails

theorem runAll_alike (hps : ∀ p ∈ ps, Blind invoke p) (hst : skipBlanks s = skipBlanks t) :
    (runAll invoke ps s).Alike (Option.Rel (Abreast s t)) (runAll invoke ps t) := by
  induction ps generalizing s t with
  | nil => exact Run.alike_pure (.some (.intro (Text.abreast_start s t)))
  | cons p ps ih =>
      refine (hps p (by simp) s t hst).bind ?_
      rintro _ _ (hrest | _)
      · have hps' : ∀ q ∈ ps, Blind invoke q := fun q hq => hps q (by simp [hq])
        refine (ih hps' (hrest.skipBlanks_eq hst)).bind ?_
        rintro _ _ (⟨⟨hlast⟩⟩ | _)
        · exact Run.alike_pure (.some (.intro (hrest.trans hlast)))
        · exact Run.alike_pure .none
      · exact Run.alike_pure .none

theorem runFirst_alike (hps : ∀ p ∈ ps, Blind invoke p) (hst : skipBlanks s = skipBlanks t) :
    (runFirst invoke ps s).Alike (Result.Abreast s t) (runFirst invoke ps t) := by
  induction ps with
  | nil => exact Run.alike_pure .failed
  | cons p ps ih =>
      refine (hps p (by simp) s t hst).bind ?_
      rintro _ _ (hrest | _)
      · exact Run.alike_pure (.ok hrest)
      · exact ih fun q hq => hps q (by simp [hq])

-- The rounds go side by side: either both runs stay where they are in a round, or they meet behind
-- it, with rounds left for each of the characters that are left.
theorem runRepeated_alike (hp : Blind invoke p) {fuel fuel' : Nat} (hs : s.length < fuel)
    (ht : t.length < fuel') (hst : skipBlanks s = skipBlanks t) :
    (runRepeated invoke p fuel s).Alike (Abreast s t) (runRepeated invoke p fuel' t) := by
  induction fuel generalizing fuel' s t with
  | zero => omega
  | succ fuel ih =>
      obtain ⟨fuel', rfl⟩ : ∃ n, fuel' = n + 1 := ⟨fuel' - 1, by omega⟩
      refine (hp s t hst).bind ?_
      rintro _ _ (@⟨u, v, m, hrest⟩ | _)
      · have hmoved := hrest.eq_start_iff hst
        by_cases hidle : u = s
        · simp only [hidle, hmoved.mp hidle, if_true]
          exact Run.alike_pure (.intro (Text.abreast_start s t))
        · obtain ⟨rfl, hus, hut⟩ := hrest.of_moved hst hidle
          have hut' : u ≠ t := fun h => hidle (hmoved.mpr h)
          simp only [hidle, hut', if_false]
          refine (ih (by omega) (by omega) rfl).bind ?_
          rintro _ _ ⟨hlast⟩
          exact Run.alike_pure (.intro (hrest.trans hlast))
      · exact Run.alike_pure (.intro (Text.abreast_start s t))

theorem repeated_alike (hp : Blind invoke p) (hst : skipBlanks s = skipBlanks t) :
    (repeated invoke p s).Alike (Abreast s t) (repeated invoke p t) :=
  runRepeated_alike hp (by unfold roundsFor; omega) (by unfold roundsFor; omega) hst

theorem runTarget_alike {slot : Nat} {name : String}
    (hcalls : ∀ q, env.target? slot = some q → Blind invoke q) (hst : skipBlanks s = skipBlanks t) :
    (runTarget invoke env slot name s).Alike (Result.Abreast s t)
      (runTarget invoke env slot name t) := by
  unfold runTarget
  cases htarget : env.target? slot with
  | none => exact Run.alike_stop _
  | some q => exact hcalls q htarget s t hst

theorem perform_alike {rule : Rule Parser} (hrule : rule.TokenLevel)
    (hcalls : ∀ q, rule.Calls env (fun _ => True) q → Blind invoke q)
    (hst : skipBlanks s = skipBlanks t) :
    (perform invoke env rule s).Alike (Result.Abreast s t) (perform invoke env rule t) := by
  have hstart := Text.abreast_start s t
  cases rule with
  | char c => exact hrule.elim
  | pattern use p => exact hrule.elim
  | whiteSpace => exact hrule.elim
  | lexeme p => exact hrule.elim
  | custom f => exact hrule.elim
  | symbol literal => exact Run.alike_pure (takeSymbol_abreast hrule hst)
  | succeed m => exact Run.alike_pure (.ok hstart)
  | choice alternatives => exact runFirst_alike hcalls hst
  | forward slot name => exact runTarget_alike hcalls hst
  | follow slot name => exact runTarget_alike hcalls hst
  | lookUp id =>
      refine (Run.alike_lift (env.lookUp id)).bind ?_
      rintro q _ ⟨hq, rfl⟩
      exact hcalls q hq s t hst
  | sequence items reducer =>
      refine (runAll_alike hcalls hst).bind ?_
      rintro _ _ (⟨⟨hlast⟩⟩ | _)
      · refine (Run.alike_lift (reducer.apply _)).bind ?_
        rintro m _ ⟨-, rfl⟩
        exact Run.alike_pure (.ok hlast)
      · exact Run.alike_pure .failed
  | attempt p =>
      refine (hcalls p rfl s t hst).bind fun x y hxy => ?_
      exact Run.alike_pure hxy.restoring
  | maybe p =>
      refine (hcalls p rfl s t hst).bind ?_
      rintro _ _ (hrest | _)
      · exact Run.alike_pure (.ok hrest)
      · exact Run.alike_pure (.ok hstart)
  | many p =>
      refine (repeated_alike (hcalls p rfl) hst).bind ?_
      rintro _ _ ⟨hlast⟩
      exact Run.alike_pure (.ok hlast)
  | many1 p =>
      refine (repeated_alike (hcalls p rfl) hst).bind ?_
      rintro _ _ (@⟨u, v, ms, hlast⟩)
      cases ms with
      | nil => exact Run.alike_pure .failed
      | cons m ms => exact Run.alike_pure (.ok hlast)
  | label name p =>
      refine (hcalls p rfl s t hst).bind ?_
      rintro _ _ (hrest | _)
      · exact Run.alike_pure (.ok hrest)
      · exact Run.alike_pure .failed
  | bind first next =>
      refine (hcalls first (.inl rfl) s t hst).bind ?_
      rintro _ _ (@⟨u, v, m, hrest⟩ | _)
      · refine (Run.alike_lift (chosen env (next m))).bind ?_
        rintro q _ ⟨hq, rfl⟩
        have hnext := hcalls q (.inr ⟨m, trivial, hq⟩) u v (hrest.skipBlanks_eq hst)
        refine hnext.bind fun x y hxy => ?_
        exact Run.alike_pure (Result.Abreast.trans hrest hxy).restoring
      · exact Run.alike_pure .failed
  | sepBy element following =>
      refine (hcalls element (.inl rfl) s t hst).bind ?_
      rintro _ _ (@⟨u, v, m, hrest⟩ | _)
      · have hmoved := hrest.eq_start_iff hst
        by_cases hidle : u = s
        · simp only [hidle, hmoved.mp hidle, if_true]
          exact Run.alike_pure (.ok hstart)
        · have hvt : v ≠ t := fun h => hidle (hmoved.mpr h)
          simp only [hidle, hvt, if_false]
          have hfollowing := hcalls following (.inr rfl)
          refine (repeated_alike hfollowing (hrest.skipBlanks_eq hst)).bind ?_
          rintro _ _ ⟨hlast⟩
          exact Run.alike_pure (.ok (hrest.trans hlast))
      · exact Run.alike_pure (.ok hstart)

end Rule

namespace Parser

variable {env : Env} {p : Parser}

theorem blind_invoke (hp : p.Throughout env (fun _ => True) Rule.TokenLevel) (limit : Nat) :
    Blind (invoke env limit) p := by
  induction limit generalizing p with
  | zero => exact fun s t _ => Run.alike_stop .nestingExceeded
  | succ limit ih =>
      intro s t hst
      have hcalls : ∀ q, p.rule.Calls env (fun _ => True) q → Blind (invoke env limit) q :=
        fun q hq => ih (hp.call hq)
      have halike := Rule.perform_alike hp.here hcalls hst
      unfold Run.Alike at halike ⊢
      rw [invoke_succ, invoke_succ, outcome_noted, outcome_noted]
      exact halike

-- On texts that differ in the blanks in front alone, a grammar of tokens fails on both or raises
-- the same on both, or gives the same match and leaves texts that differ in the same way.
theorem invoke_ignores_blanks (hp : p.Throughout env (fun _ => True) Rule.TokenLevel) (limit : Nat)
    {s t : Text} (hst : Text.skipBlanks s = Text.skipBlanks t) :
    match (p.invoke env limit s).outcome, (p.invoke env limit t).outcome with
    | .ok (.ok u m), .ok (.ok v n) =>
        m = n ∧ Text.skipBlanks u = Text.skipBlanks v ∧ (u = s ↔ v = t)
    | .ok (.failed _ _), .ok (.failed _ _) => True
    | .error e, .error f => e = f
    | _, _ => False := by
  have halike := blind_invoke hp limit s t hst
  unfold Run.Alike at halike
  cases hs : (p.invoke env limit s).outcome with
  | error e =>
      cases ht : (p.invoke env limit t).outcome <;> rw [hs, ht] at halike
      · exact halike
      · exact halike.elim
  | ok x =>
      cases ht : (p.invoke env limit t).outcome <;> rw [hs, ht] at halike
      · exact halike.elim
      · cases halike with
        | ok hrest => exact ⟨rfl, hrest.skipBlanks_eq hst, hrest.eq_start_iff hst⟩
        | failed => trivial

-- Lists of terms, of which each is a variable or a list in parentheses.
def group : Parser :=
  sequence [symbol ['('], forward 0 "terms", symbol [')']] (.nth 1)

def term : Parser :=
  choice [symbol ['x'], group]

def terms : Parser :=
  sepBy comma term

def termsEnv : Env :=
  .ofTargets [terms]

theorem terms_throughout : terms.Throughout termsEnv (fun _ => True) Rule.TokenLevel := by
  let following := sequence [comma, term] (.nth 1)
  let members := [terms, term, following, comma, symbol ['x'], group, symbol ['('],
    forward 0 "terms", symbol [')']]
  refine throughout_of_closed members (by simp [members]) ?_ ?_
  · have hsymbol : ∀ c : Char, [c] ≠ [] := fun c => by simp
    simp only [members, List.forall_mem_cons]
    exact ⟨trivial, trivial, trivial, hsymbol _, hsymbol _, trivial, hsymbol _, trivial, hsymbol _,
      by simp⟩
  · have helement : term ∈ members := by simp [members]
    have hnext : following ∈ members := by simp [members]
    have hterm : [symbol ['x'], group] ⊆ members := by simp [members]
    have hfollowing : [comma, term] ⊆ members := by simp [members]
    have hgroup : [symbol ['('], forward 0 "terms", symbol [')']] ⊆ members := by simp [members]
    simp only [members, List.forall_mem_cons]
    refine ⟨?_, fun r hr => hterm hr, fun r hr => hfollowing hr, fun _ hr => hr.elim,
      fun _ hr => hr.elim, fun r hr => hgroup hr, fun _ hr => hr.elim, ?_, fun _ hr => hr.elim,
      by simp⟩
    · rintro r (rfl | rfl)
      · exact helement
      · exact hnext
    · rintro r ⟨⟩
      simp

theorem invoke_ignores_blanks_terms :
    Text.skipBlanks [' ', '\t', '(', 'x', ')', ',', 'x', ' ', ','] =
        Text.skipBlanks ['(', 'x', ')', ',', 'x', ' ', ','] ∧
      (terms.invoke termsEnv 20 [' ', '\t', '(', 'x', ')', ',', 'x', ' ', ',']).outcome =
        .ok (.ok [','] (.seq [.seq [.leaf ['x']], .leaf ['x']])) ∧
      (terms.invoke termsEnv 20 ['(', 'x', ')', ',', 'x', ' ', ',']).outcome =
        .ok (.ok [','] (.seq [.seq [.leaf ['x']], .leaf ['x']])) ∧
      Text.skipBlanks [','] = Text.skipBlanks [','] ∧
      ([','] = [' ', '\t', '(', 'x', ')', ',', 'x', ' ', ','] ↔
        [','] = ['(', 'x', ')', ',', 'x', ' ', ',']) := by
  have hblanks : Text.skipBlanks [' ', '\t', '(', 'x', ')', ',', 'x', ' ', ','] =
      Text.skipBlanks ['(', 'x', ')', ',', 'x', ' ', ','] := rfl
  have hspaced : (terms.invoke termsEnv 20 [' ', '\t', '(', 'x', ')', ',', 'x', ' ', ',']).outcome =
      .ok (.ok [','] (.seq [.seq [.leaf ['x']], .leaf ['x']])) := rfl
  have hdense : (terms.invoke termsEnv 20 ['(', 'x', ')', ',', 'x', ' ', ',']).outcome =
      .ok (.ok [','] (.seq [.seq [.leaf ['x']], .leaf ['x']])) := rfl
  have halike := invoke_ignores_blanks terms_throughout 20 hblanks
  rw [hspaced, hdense] at halike
  obtain ⟨-, hrest, hmoved⟩ := halike
  exact ⟨hblanks, hspaced, hdense, hrest, hmoved⟩

end Parser

end Descent
