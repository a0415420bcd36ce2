import Descent.Grammar.Build
import Descent.Proofs.Lexical

namespace Descent

namespace Text

variable {literal t u rest : Text}

-- A text that holds a literal with blanks on both of its sides, and what comes behind those.
def Spaced (literal t rest : Text) : Prop :=
  ∃ before behind : Gap, t = before.1 ++ (literal ++ (behind.1 ++ rest)) ∧ Outside isBlank rest

theorem outside_append (h : literal ≠ []) :
    Outside isBlank (literal ++ u) ↔ Outside isBlank literal := by
  obtain ⟨c, more, rfl⟩ := List.exists_cons_of_ne_nil h
  rw [List.cons_append, outside_cons, outside_cons]

theorem skipBlanks_outside (t : Text) : Outside isBlank (skipBlanks t) := by
  intro c hc
  have hhead := List.head?_dropWhile_not isBlank t
  rwa [show (t.dropWhile isBlank).head? = some c from hc] at hhead

-- The gap at the front of a text is the one behind which no blank stands.
theorem skipBlanks_eq_iff : skipBlanks t = u ↔ Outside isBlank u ∧ ∃ w : Gap, t = w.1 ++ u := by
  constructor
  · rintro rfl
    exact ⟨skipBlanks_outside t, exists_gap t⟩
  · rintro ⟨hu, w, rfl⟩
    rw [skipBlanks_gap, skipBlanks_of_outside hu]

-- Where a literal is found behind the blanks, what is left behind it is a text that it is spaced in; and
-- a literal that is spaced in a text is found there, unless it begins with one of the blanks.
theorem spaced_iff (hne : literal ≠ []) :
    (∃ behind, skipBlanks t = literal ++ behind ∧ skipBlanks behind = rest) ↔
      Outside isBlank literal ∧ Spaced literal t rest := by
  constructor
  · rintro ⟨behind, hfront, hrest⟩
    obtain ⟨hliteral, before, ht⟩ := skipBlanks_eq_iff.mp hfront
    obtain ⟨houtside, gap, rfl⟩ := skipBlanks_eq_iff.mp hrest
    exact ⟨(outside_append hne).mp hliteral, before, gap, ht, houtside⟩
  · rintro ⟨hliteral, before, gap, ht, houtside⟩
    have hfront : skipBlanks t = literal ++ (gap.1 ++ rest) :=
      skipBlanks_eq_iff.mpr ⟨(outside_append hne).mpr hliteral, before, ht⟩
    exact ⟨gap.1 ++ rest, hfront, skipBlanks_eq_iff.mpr ⟨houtside, gap, rfl⟩⟩

end Text

open Text (Outside Spaced isBlank)

variable {literal t rest : Text} {m : Match}

theorem Rule.takeSymbol_eq_ok_iff (hne : literal ≠ []) :
    takeSymbol literal t = .ok rest m ↔
      m = .leaf literal ∧ Outside isBlank literal ∧ Spaced literal t rest := by
  rw [← Text.spaced_iff hne]
  constructor
  · intro h
    rcases takeSymbol_cases literal t with hfail | ⟨behind, hfront, hok⟩
    · cases hfail.symm.trans h
    · cases hok.symm.trans h
      exact ⟨rfl, behind, hfront, rfl⟩
  · rintro ⟨rfl, behind, hfront, rfl⟩
    simp [takeSymbol, hfront]

theorem Rule.takeSymbol_eq_fail (hne : literal ≠ [])
    (h : ∀ rest, ¬(Outside isBlank literal ∧ Spaced literal t rest)) :
    takeSymbol literal t = .fail t := by
  rcases takeSymbol_cases literal t with hfail | ⟨behind, -, hok⟩
  · exact hfail
  · exact absurd ((takeSymbol_eq_ok_iff hne).mp hok).2 (h _)

namespace Parser

-- Strings of one character or more have a symbol, and nothing else has.
theorem symbol?_eq_ok_iff {v : Plain} {p : Parser} :
    symbol? v = .ok p ↔ ∃ s, v = .text s ∧ s.toList ≠ [] ∧ p = symbol s.toList := by
  cases v with
  | text s =>
      by_cases hs : s = ""
      · simp [symbol?, hs]
      · simp only [symbol?, String.isEmpty_iff, hs, if_false, Except.ok.injEq, Plain.text.injEq]
        constructor
        · rintro rfl
          exact ⟨s, rfl, by simpa using hs, rfl⟩
        · rintro ⟨_, rfl, -, rfl⟩
          rfl
  | _ => simp [symbol?]

-- A symbol takes its literal with the blanks around it, all of them, and fails on every other text. One
-- that begins with a blank fails on every text.
theorem symbol_language {v : Plain} {p : Parser} (h : symbol? v = .ok p) (env : Env) (limit : Nat) :
    ∃ s, v = .text s ∧ s.toList ≠ [] ∧ ∀ t,
      (∀ rest m, (p.invoke env (limit + 1) t).outcome = .ok (.ok rest m) ↔
        m = .leaf s.toList ∧ Outside isBlank s.toList ∧ Spaced s.toList t rest) ∧
      ((∀ rest, ¬(Outside isBlank s.toList ∧ Spaced s.toList t rest)) →
        (p.invoke env (limit + 1) t).outcome = .ok (.fail t)) := by
  obtain ⟨s, hv, hne, rfl⟩ := symbol?_eq_ok_iff.mp h
  have hrun : ∀ t, ((symbol s.toList).invoke env (limit + 1) t).outcome =
      .ok (Rule.takeSymbol s.toList t) := fun t => (settles_takeSymbol rfl).outcome _ (by omega)
  refine ⟨s, hv, hne, fun t => ⟨fun rest m => ?_, fun hnone => ?_⟩⟩
  · rw [hrun, Except.ok.injEq, Rule.takeSymbol_eq_ok_iff hne]
  · rw [hrun, Rule.takeSymbol_eq_fail hne hnone]

-- The first of the two blanks behind the letter belongs to the literal, and the second one is skipped.
theorem symbol_language_blank_behind :
    symbol? (.text "a ") = .ok (symbol ['a', ' ']) ∧
      ((symbol ['a', ' ']).invoke (.ofTargets []) 1 ['\t', 'a', ' ', ' ', 'b']).outcome =
        .ok (.ok ['b'] (.leaf ['a', ' '])) := by
  have hmade : symbol? (.text "a ") = .ok (symbol ['a', ' ']) := rfl
  have hspaced : Spaced ['a', ' '] ['\t', 'a', ' ', ' ', 'b'] ['b'] :=
    ⟨.of ['\t'] (by decide), .of [' '] (by decide), rfl, by simp; decide⟩
  obtain ⟨s, htext, -, hlanguage⟩ := symbol_language hmade (.ofTargets []) 0
  obtain rfl : "a " = s := Plain.text.inj htext
  exact ⟨hmade, ((hlanguage _).1 ['b'] _).mpr ⟨rfl, by simp; decide, hspaced⟩⟩

-- The blank in front of the letter belongs to the literal, and is skipped before the literal is looked for.
theorem symbol_misses_blank_before :
    symbol? (.text " a") = .ok (symbol [' ', 'a']) ∧ Spaced [' ', 'a'] [' ', 'a'] [] ∧
      ((symbol [' ', 'a']).invoke (.ofTargets []) 1 [' ', 'a']).outcome = .ok (.fail [' ', 'a']) :=
  ⟨rfl, ⟨.of [] rfl, .of [] rfl, rfl, Text.outside_nil⟩, rfl⟩

end Parser

end Descent
