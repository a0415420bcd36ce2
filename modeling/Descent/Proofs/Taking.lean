import Descent.Parser.Invoke

namespace Descent

theorem Pattern.splitAt?_append {place : Option Nat} {t taken rest : Text}
    (h : splitAt? place t = some (taken, rest)) : t = taken ++ rest := by
  obtain ⟨n, -, hn⟩ := Option.map_eq_some_iff.mp h
  obtain ⟨rfl, rfl⟩ := Prod.mk.inj hn
  exact (List.take_append_drop n t).symm

theorem PatternUse.split?_append {use : PatternUse} {p : Pattern} {t taken rest : Text}
    (h : use.split? p t = some (taken, rest)) : t = taken ++ rest := by
  cases use with
  | front =>
      have hsplit : Pattern.splitAt? (p.length? [] t) t = some (taken, rest) := h
      exact Pattern.splitAt?_append hsplit
  | upto => exact Pattern.splitAt?_append h
  | greedyUpto => exact Pattern.splitAt?_append h

namespace Rule

theorem takeChar_cases (c : Char) (t : Text) :
    takeChar c t = .fail t ∨ ∃ rest, t = c :: rest ∧ takeChar c t = .ok rest (.leaf [c]) := by
  cases t with
  | nil => exact .inl rfl
  | cons d rest =>
      by_cases hd : d = c
      · subst d
        exact .inr ⟨rest, rfl, by simp [takeChar]⟩
      · exact .inl (by simp [takeChar, hd])

theorem takePattern_cases (use : PatternUse) (p : Pattern) (t : Text) :
    takePattern use p t = .fail t ∨
      ∃ taken rest, t = taken ++ rest ∧ takePattern use p t = .ok rest (.leaf taken) := by
  unfold takePattern
  cases hsplit : use.split? p t with
  | none => exact .inl rfl
  | some piece => exact .inr ⟨piece.1, piece.2, PatternUse.split?_append hsplit, rfl⟩

theorem takeSymbol_cases (literal t : Text) :
    takeSymbol literal t = .fail t ∨
      ∃ behind, Text.skipBlanks t = literal ++ behind ∧
        takeSymbol literal t = .ok (Text.skipBlanks behind) (.leaf literal) := by
  by_cases hfront : literal <+: Text.skipBlanks t
  · obtain ⟨behind, hbehind⟩ := hfront
    exact .inr ⟨behind, hbehind.symm, by simp [takeSymbol, ← hbehind]⟩
  · exact .inl (by simp [takeSymbol, hfront])

-- A failure that leaves the text alone, or one leaf off its front.
def TakesLeaf (t : Text) (r : Result) : Prop :=
  r = .fail t ∨ ∃ rest piece, rest <:+ t ∧ r = .ok rest (.leaf piece)

theorem takeChar_takesLeaf (c : Char) (t : Text) : TakesLeaf t (takeChar c t) := by
  rcases takeChar_cases c t with h | ⟨rest, rfl, h⟩
  · exact .inl h
  · exact .inr ⟨rest, [c], List.suffix_cons c rest, h⟩

theorem takePattern_takesLeaf (use : PatternUse) (p : Pattern) (t : Text) :
    TakesLeaf t (takePattern use p t) := by
  rcases takePattern_cases use p t with h | ⟨taken, rest, rfl, h⟩
  · exact .inl h
  · exact .inr ⟨rest, taken, List.suffix_append taken rest, h⟩

theorem takeSymbol_takesLeaf (literal t : Text) : TakesLeaf t (takeSymbol literal t) := by
  rcases takeSymbol_cases literal t with h | ⟨behind, hfront, h⟩
  · exact .inl h
  · have hbehind : behind <:+ Text.skipBlanks t := hfront ▸ List.suffix_append literal behind
    have hrest := (Text.skipBlanks_suffix behind).trans hbehind
    exact .inr ⟨_, literal, hrest.trans (Text.skipBlanks_suffix t), h⟩

variable {t : Text} {r : Result}

theorem TakesLeaf.rest_suffix (h : TakesLeaf t r) : r.rest <:+ t := by
  rcases h with rfl | ⟨rest, piece, hrest, rfl⟩
  · exact List.suffix_refl t
  · exact hrest

theorem TakesLeaf.eq_fail (h : TakesLeaf t r) (hr : r.succeeded = false) : r = .fail t := by
  rcases h with rfl | ⟨rest, piece, hrest, rfl⟩
  · rfl
  · cases hr

end Rule

end Descent
