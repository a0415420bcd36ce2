import Descent.Pattern.Lemmas
import Descent.Proofs.Settling

namespace Descent

namespace Text

-- A text that does not begin with a character of a class. A run of the class ends in front of it.
def Outside (accepts : Char → Bool) (t : Text) : Prop :=
  ∀ c ∈ t.head?, accepts c = false

-- Blanks that may stand between two tokens.
abbrev Gap := {w : Text // ∀ c ∈ w, isBlank c = true}

def Gap.of (w : Text) (h : w.all isBlank = true) : Gap :=
  ⟨w, List.all_eq_true.mp h⟩

-- One character of a class, or more of them.
abbrev Token (accepts : Char → Bool) := {t : Text // t ≠ [] ∧ ∀ c ∈ t, accepts c = true}

def Token.of {accepts : Char → Bool} (t : Text) (hne : t ≠ []) (h : t.all accepts = true) :
    Token accepts :=
  ⟨t, hne, List.all_eq_true.mp h⟩

variable {accepts other : Char → Bool} {run t : Text} {c : Char}

@[simp]
theorem outside_nil : Outside accepts [] := by
  simp [Outside]

@[simp]
theorem outside_cons : Outside accepts (c :: t) ↔ accepts c = false := by
  simp [Outside]

theorem Outside.behind (ht : Outside accepts t) (hrun : ∀ c ∈ run, other c = true)
    (hdisjoint : ∀ c, other c = true → accepts c = false) : Outside accepts (run ++ t) := by
  cases run with
  | nil => exact ht
  | cons c run => exact outside_cons.mpr (hdisjoint c (hrun c List.mem_cons_self))

theorem takeWhile_eq_nil (ht : Outside accepts t) : t.takeWhile accepts = [] := by
  cases t with
  | nil => rfl
  | cons c t => simp [outside_cons.mp ht]

theorem dropWhile_eq_self (ht : Outside accepts t) : t.dropWhile accepts = t := by
  cases t with
  | nil => rfl
  | cons c t => simp [outside_cons.mp ht]

theorem takeWhile_token (a : Token accepts) (ht : Outside accepts t) :
    (a.1 ++ t).takeWhile accepts = a.1 := by
  rw [List.takeWhile_append_of_pos a.2.2, takeWhile_eq_nil ht, List.append_nil]

theorem dropWhile_token (a : Token accepts) (ht : Outside accepts t) :
    (a.1 ++ t).dropWhile accepts = t := by
  rw [List.dropWhile_append_of_pos a.2.2, dropWhile_eq_self ht]

theorem exists_token (hne : t.takeWhile accepts ≠ []) :
    ∃ a : Token accepts, a.1 = t.takeWhile accepts :=
  ⟨.of _ hne List.all_takeWhile, rfl⟩

theorem Token.exists_cons (a : Token accepts) : ∃ c rest, a.1 = c :: rest ∧ accepts c = true := by
  obtain ⟨c, rest, ha⟩ := List.exists_cons_of_ne_nil a.2.1
  exact ⟨c, rest, ha, a.2.2 c (by simp [ha])⟩

theorem Token.outside (a : Token accepts) (hdisjoint : ∀ c, accepts c = true → other c = false) :
    Outside other (a.1 ++ t) := by
  obtain ⟨c, rest, ha, hc⟩ := a.exists_cons
  rw [ha]
  exact outside_cons.mpr (hdisjoint c hc)

theorem skipBlanks_of_outside (ht : Outside isBlank t) : skipBlanks t = t :=
  dropWhile_eq_self ht

theorem skipBlanks_gap (w : Gap) : skipBlanks (w.1 ++ t) = skipBlanks t :=
  List.dropWhile_append_of_pos w.2

theorem skipBlanks_gap_cons (w : Gap) (hc : isBlank c = false) :
    skipBlanks (w.1 ++ c :: t) = c :: t := by
  rw [skipBlanks_gap]
  exact skipBlanks_of_outside (outside_cons.mpr hc)

theorem exists_gap (t : Text) : ∃ w : Gap, t = w.1 ++ skipBlanks t :=
  ⟨.of (t.takeWhile isBlank) List.all_takeWhile, List.takeWhile_append_dropWhile.symm⟩

theorem Outside.behind_gap (ht : Outside accepts t) (w : Gap)
    (hblank : ∀ c, isBlank c = true → accepts c = false) : Outside accepts (w.1 ++ t) :=
  ht.behind w.2 hblank

theorem not_isBlank_of_isWordChar (h : isWordChar c = true) : isBlank c = false := by
  have hapart : ∀ b ∈ blankRanges, ∀ w ∈ wordRanges, b.2 < w.1 ∨ w.2 < b.1 := by decide +kernel
  obtain ⟨w, hw, hlow, hhigh⟩ := within_of_mem h
  refine Bool.eq_false_iff.mpr fun hblank => ?_
  obtain ⟨b, hb, hlow', hhigh'⟩ := within_of_mem hblank
  have := hapart b hb w hw
  omega

theorem not_isWordChar_of_isBlank (h : isBlank c = true) : isWordChar c = false :=
  Bool.eq_false_iff.mpr fun hword => by simp [not_isBlank_of_isWordChar hword] at h

theorem isWordChar_of_isAsciiDigit (h : isAsciiDigit c = true) : isWordChar c = true := by
  have hbounds : '0' ≤ c ∧ c ≤ '9' := by simpa [isAsciiDigit] using h
  have hlow : 0x30 ≤ c.toNat := hbounds.1
  have hhigh : c.toNat ≤ 0x39 := hbounds.2
  exact within_first hlow hhigh

theorem not_isBlank_of_isAsciiDigit (h : isAsciiDigit c = true) : isBlank c = false :=
  not_isBlank_of_isWordChar (isWordChar_of_isAsciiDigit h)

theorem not_isAsciiDigit_of_isBlank (h : isBlank c = true) : isAsciiDigit c = false :=
  Bool.eq_false_iff.mpr fun hdigit => by simp [not_isBlank_of_isAsciiDigit hdigit] at h

end Text

open Text (Outside)

variable {env : Env} {p : Parser} {source literal t u : Text} {test : Pattern.CharTest} {c : Char}

theorem settles_takeChar (hrule : p.rule = .char c) : Settles env 1 p t (Rule.takeChar c t) :=
  settles_of_gives (hrule ▸ trivial) (hrule ▸ .char c t)

theorem settles_takePattern {use : PatternUse} {pattern : Pattern}
    (hrule : p.rule = .pattern use pattern) :
    Settles env 1 p t (Rule.takePattern use pattern t) :=
  settles_of_gives (hrule ▸ trivial) (hrule ▸ .pattern use pattern t)

theorem settles_takeSymbol (hrule : p.rule = .symbol literal) :
    Settles env 1 p t (Rule.takeSymbol literal t) :=
  settles_of_gives (hrule ▸ trivial) (hrule ▸ .symbol literal t)

theorem settles_char : Settles env 1 (Parser.char c) (c :: t) (.ok t (.leaf [c])) := by
  have htaken : Rule.takeChar c (c :: t) = .ok t (.leaf [c]) := by simp [Rule.takeChar]
  exact htaken ▸ settles_takeChar rfl

theorem settles_noChar (ht : t.head? ≠ some c) : Settles env 1 (Parser.char c) t (.fail t) := by
  have hnone : Rule.takeChar c t = .fail t := by
    rcases Rule.takeChar_cases c t with h | ⟨rest, rfl, -⟩
    · exact h
    · exact absurd rfl ht
  exact hnone ▸ settles_takeChar rfl

-- What is taken off the front of a text by a parser for the characters of one class.
def takeRun (accepts : Char → Bool) (t : Text) : Result :=
  if t.takeWhile accepts = [] then .fail t
  else .ok (t.dropWhile accepts) (.leaf (t.takeWhile accepts))

section Run

variable {accepts : Char → Bool}

theorem takeRun_none (hnone : t.takeWhile accepts = []) : takeRun accepts t = .fail t :=
  if_pos hnone

theorem takeRun_some (hsome : t.takeWhile accepts ≠ []) :
    takeRun accepts t = .ok (t.dropWhile accepts) (.leaf (t.takeWhile accepts)) :=
  if_neg hsome

theorem takeRun_token (a : Text.Token accepts) (ht : Outside accepts t) :
    takeRun accepts (a.1 ++ t) = .ok t (.leaf a.1) := by
  rw [takeRun, Text.takeWhile_token a ht, Text.dropWhile_token a ht, if_neg a.2.1]

-- A token goes with the blanks behind it.
theorem settles_token (hrun : ∀ t, Settles env 1 p t (takeRun accepts t)) (a : Text.Token accepts)
    (ht : Outside accepts t) :
    Settles env 2 (Parser.lexeme p) (a.1 ++ t) (.ok (Text.skipBlanks t) (.leaf a.1)) := by
  have htaken := hrun (a.1 ++ t)
  rw [takeRun_token a ht] at htaken
  exact settles_of_gives trivial (.lexeme htaken)

end Run

theorem takePattern_oneOrMore :
    Rule.takePattern .front ⟨source, Parser.oneOrMore test⟩ t = takeRun test.accepts t := by
  have hsplit := Pattern.front?_oneOrMore source test t
  by_cases hnone : t.takeWhile test.accepts = [] <;>
    simp_all [Rule.takePattern, PatternUse.split?, Parser.oneOrMore, takeRun]

theorem accepts_digit :
    Pattern.CharTest.accepts ⟨false, [.range '0'.toNat '9'.toNat], .exact⟩ =
      Text.isAsciiDigit := by
  funext c
  simp only [Pattern.CharTest.accepts, Pattern.CharItem.holds, Pattern.Folding.variants,
    List.any_cons, List.any_nil, Bool.or_false, Bool.bne_false]
  rfl

theorem accepts_wordChar : (Pattern.CharTest.named .word false false).accepts = Text.isWordChar := by
  funext c
  simp [Pattern.CharTest.accepts, Pattern.CharTest.named, Pattern.CharItem.holds,
    Pattern.ClassName.holds]

theorem settles_natural (t : Text) :
    Settles env 1 Parser.natural t (takeRun Text.isAsciiDigit t) := by
  rw [← accepts_digit, ← takePattern_oneOrMore]
  exact settles_takePattern rfl

theorem settles_word (t : Text) : Settles env 1 Parser.word t (takeRun Text.isWordChar t) := by
  rw [← accepts_wordChar, ← takePattern_oneOrMore]
  exact settles_takePattern rfl

theorem settles_symbol (hrule : p.rule = .symbol literal)
    (ht : Text.skipBlanks t = literal ++ u) :
    Settles env 1 p t (.ok (Text.skipBlanks u) (.leaf literal)) := by
  have htaken : Rule.takeSymbol literal t = .ok (Text.skipBlanks u) (.leaf literal) := by
    simp [Rule.takeSymbol, ht]
  exact htaken ▸ settles_takeSymbol hrule

theorem settles_comma (ht : Text.skipBlanks t = ',' :: u) :
    Settles env 1 Parser.comma t (.ok (Text.skipBlanks u) (.leaf [','])) :=
  settles_symbol rfl ht

theorem settles_noSymbol (hrule : p.rule = .symbol literal)
    (ht : ¬literal <+: Text.skipBlanks t) : Settles env 1 p t (.fail t) := by
  have hnone : Rule.takeSymbol literal t = .fail t := by simp [Rule.takeSymbol, ht]
  exact hnone ▸ settles_takeSymbol hrule

-- Of several literals the one that stands there is taken, whatever comes before it in the list.
theorem first_of_literals {literals : List Text} (hmem : literal ∈ literals)
    (hothers : ∀ other ∈ literals, other <+: Text.skipBlanks t → other = literal)
    (ht : Text.skipBlanks t = literal ++ u) :
    Answers.First (Settles env 1) (literals.map Parser.symbol) t
      (.ok (Text.skipBlanks u) (.leaf literal)) := by
  induction literals with
  | nil => cases hmem
  | cons other rest ih =>
      by_cases hsame : other = literal
      · subst other
        exact .here (settles_symbol rfl ht)
      · have hnot : ¬other <+: Text.skipBlanks t := fun h =>
          hsame (hothers other List.mem_cons_self h)
        have hrest := (List.mem_cons.mp hmem).resolve_left (Ne.symm hsame)
        refine .later (settles_noSymbol rfl hnot) (ih hrest fun o ho => ?_)
        exact hothers o (List.mem_cons_of_mem other ho)

theorem first_of_noLiteral {literals : List Text}
    (hnone : ∀ literal ∈ literals, ¬literal <+: Text.skipBlanks t) :
    Answers.First (Settles env 1) (literals.map Parser.symbol) t (.fail t) := by
  induction literals with
  | nil => exact .none t
  | cons literal rest ih =>
      have hrest := ih fun l hl => hnone l (List.mem_cons_of_mem literal hl)
      exact .later (settles_noSymbol rfl (hnone literal List.mem_cons_self)) hrest

theorem settles_oneOf {literals : List Text} (hmem : literal ∈ literals)
    (hfree : ∀ a ∈ literals, ∀ b ∈ literals, a <+: b → a = b)
    (ht : Text.skipBlanks t = literal ++ u) :
    Settles env 2 (Parser.oneOf literals) t (.ok (Text.skipBlanks u) (.leaf literal)) := by
  have hothers : ∀ other ∈ literals, other <+: Text.skipBlanks t → other = literal := by
    intro other hother hprefix
    rw [ht] at hprefix
    rcases List.prefix_or_prefix_of_prefix hprefix (List.prefix_append literal u) with h | h
    · exact hfree other hother literal hmem h
    · exact (hfree literal hmem other hother h).symm
  exact settles_of_gives trivial (.choice (first_of_literals hmem hothers ht))

theorem settles_noneOf {literals : List Text}
    (hnone : ∀ literal ∈ literals, ¬literal <+: Text.skipBlanks t) :
    Settles env 2 (Parser.oneOf literals) t (.fail t) :=
  settles_of_gives trivial (.choice (first_of_noLiteral hnone))

-- What stands behind a comma, as the rounds of a list take it.
section Commas

variable {rest : Text} {m : Match} {level : Nat} {reducer : Reducer}

theorem settles_behindComma (hlevel : 1 ≤ level) (ht : Text.skipBlanks t = ',' :: u)
    (h : Settles env level p (Text.skipBlanks u) (.ok rest m)) :
    Settles env (level + 1) (Parser.sequence [Parser.comma, p] (.nth 1)) t (.ok rest m) :=
  settles_of_gives trivial
    (.sequence (.next ((settles_comma ht).mono hlevel) (.next h (.done rest))) rfl)

theorem settles_noneBehindComma (hlevel : 1 ≤ level) (ht : Text.skipBlanks t = ',' :: u)
    (h : Settles env level p (Text.skipBlanks u) (.fail (Text.skipBlanks u))) :
    Settles env (level + 1) (Parser.sequence [Parser.comma, p] reducer) t (.fail t) :=
  settles_of_gives trivial
    (.sequenceBroken (.broken ((settles_comma ht).mono hlevel) (.failed h)))

theorem settles_noComma (hlevel : 1 ≤ level) (ht : ¬[','] <+: Text.skipBlanks t) :
    Settles env (level + 1) (Parser.sequence [Parser.comma, p] reducer) t (.fail t) :=
  settles_of_gives trivial
    (.sequenceBroken (.failed ((settles_noSymbol rfl ht).mono hlevel)))

end Commas

-- Parentheses skip no blanks: those inside are left to the parser that stands there.
section Parens

variable {rest last : Text} {m : Match} {level : Nat}

theorem settles_parens (hlevel : 1 ≤ level) (h : Settles env level p t (.ok (')' :: rest) m)) :
    Settles env (level + 1) p.parens ('(' :: t) (.ok rest m) :=
  settles_of_gives trivial
    (.sequence
      (.next (settles_char.mono hlevel) (.next h (.next (settles_char.mono hlevel) (.done rest))))
      rfl)

theorem settles_unopened (hlevel : 1 ≤ level) (ht : t.head? ≠ some '(') :
    Settles env (level + 1) p.parens t (.fail t) :=
  settles_of_gives trivial (.sequenceBroken (.failed ((settles_noChar ht).mono hlevel)))

theorem settles_unclosed (hlevel : 1 ≤ level) (h : Settles env level p t (.ok last m))
    (hlast : last.head? ≠ some ')') : Settles env (level + 1) p.parens ('(' :: t) (.fail ('(' :: t)) :=
  settles_of_gives trivial
    (.sequenceBroken (.broken (settles_char.mono hlevel)
      (.broken h (.failed ((settles_noChar hlast).mono hlevel)))))

end Parens

end Descent
