import Descent.Proofs.Locating
import Mathlib.Algebra.Ring.Nat

namespace Descent

namespace Text

variable {first rest : Text}

theorem lines_of_not_mem (h : '\n' ∉ first) : lines first = [first] := by
  induction first with
  | nil => rfl
  | cons c first ih =>
      obtain ⟨hc, hfirst⟩ := not_or.mp (mt List.mem_cons.mpr h)
      simp [lines, ih hfirst, Ne.symm hc]

theorem lines_append (h : '\n' ∉ first) : lines (first ++ '\n' :: rest) = first :: lines rest := by
  induction first with
  | nil => simp [lines]
  | cons c first ih =>
      obtain ⟨hc, hfirst⟩ := not_or.mp (mt List.mem_cons.mpr h)
      simp [lines, ih hfirst, Ne.symm hc]

-- What holds of a text without line feeds, and of a line in front of a text of which it holds, holds of every
-- text.
@[elab_as_elim]
theorem byLines {motive : Text → Prop} (last : ∀ line, '\n' ∉ line → motive line)
    (more : ∀ first rest, '\n' ∉ first → motive rest → motive (first ++ '\n' :: rest)) (t : Text) :
    motive t := by
  induction hlength : t.length using Nat.strongRecOn generalizing t with
  | _ n ih =>
      by_cases hmem : '\n' ∈ t
      · obtain ⟨first, rest, rfl, hfirst⟩ := List.eq_append_cons_of_mem hmem
        have hshorter : rest.length < n := by
          rw [List.length_append, List.length_cons] at hlength
          omega
        exact more first rest hfirst (ih rest.length hshorter rest rfl)
      · exact last t hmem

end Text

namespace Position

-- How many characters stand in front of a line, the line feeds counted with the lines that they end.
def lineStart (lines : List Text) (line : Nat) : Nat :=
  ((lines.take (line - 1)).map (·.length + 1)).sum

-- The places among the lines of a text. The last one of a line is that of its end.
structure Inside (lines : List Text) (line column : Nat) : Prop where
  line_pos : 1 ≤ line
  line_le : line ≤ lines.length
  column_pos : 1 ≤ column
  column_le : ∀ text ∈ lines[line - 1]?, column ≤ text.length + 1

variable {lines more : List Text} {first before u t : Text} {line column n : Nat}

theorem inside_one : Inside (first :: more) 1 column ↔ 1 ≤ column ∧ column ≤ first.length + 1 where
  mp h := ⟨h.column_pos, h.column_le first rfl⟩
  mpr h := ⟨Nat.le_refl 1, by simp, h.1, by simpa using h.2⟩

theorem inside_succ : Inside (first :: more) (line + 2) column ↔ Inside more (line + 1) column where
  mp h := ⟨by omega, by simpa using h.line_le, h.column_pos, by simpa using h.column_le⟩
  mpr h := ⟨by omega, by simpa using h.line_le, h.column_pos, by simpa using h.column_le⟩

theorem not_inside_zero : ¬Inside lines 0 column := by
  intro h
  exact absurd h.line_pos (by omega)

theorem lineStart_one : lineStart lines 1 = 0 := rfl

theorem lineStart_succ :
    lineStart (first :: more) (line + 2) = first.length + 1 + lineStart more (line + 1) := by
  simp [lineStart]

-- Characters that end no line move the column, and those in front of a line feed do not count in it.
theorem behind_append (h : '\n' ∉ u) :
    behind (before ++ u) = ((behind before).1, (behind before).2 + u.length) := by
  have hall : ∀ c ∈ u.reverse, (c != '\n') = true := by
    intro c hc
    have hne : c ≠ '\n' := fun heq => h (heq ▸ List.mem_reverse.mp hc)
    simpa using hne
  simp only [behind, List.count_append, List.count_eq_zero.mpr h, List.reverse_append,
    List.takeWhile_append_of_pos hall, List.length_append, List.length_reverse, Nat.add_zero,
    Prod.mk.injEq, true_and]
  omega

theorem behind_append_newline :
    behind (before ++ '\n' :: u) = ((behind before).1 + (behind u).1, (behind u).2) := by
  have hcolumn : ((before ++ '\n' :: u).reverse.takeWhile (· != '\n')).length =
      (u.reverse.takeWhile (· != '\n')).length := by
    rw [List.reverse_append, List.reverse_cons, List.append_assoc, List.takeWhile_append]
    split <;> simp_all
  simp only [behind, hcolumn, List.count_append, List.count_cons_self, Prod.mk.injEq, and_true]
  omega

theorem behind_of_not_mem (h : '\n' ∉ u) : behind u = (1, u.length + 1) := by
  have hnothing : behind ([] ++ u) = _ := behind_append h
  rw [List.nil_append] at hnothing
  simpa [behind, Nat.add_comm] using hnothing

theorem behind_first (hfirst : '\n' ∉ first) (hn : n ≤ first.length) :
    behind ((first ++ u).take n) = (1, n + 1) := by
  rw [List.take_append_of_le_length hn, behind_of_not_mem fun h => hfirst (List.mem_of_mem_take h),
    List.length_take_of_le hn]

theorem behind_later (hfirst : '\n' ∉ first) :
    behind ((first ++ '\n' :: u).take (first.length + 1 + n)) =
      ((behind (u.take n)).1 + 1, (behind (u.take n)).2) := by
  have htake : (first ++ '\n' :: u).take (first.length + 1 + n) = first ++ '\n' :: u.take n := by
    rw [Nat.add_assoc, List.take_length_add_append, Nat.add_comm 1 n, List.take_succ_cons]
  rw [htake, behind_append_newline, behind_of_not_mem hfirst, Nat.add_comm 1]

-- In the first line the offset is one less than the column.
theorem behind_first_iff (hfirst : '\n' ∉ first) (hn : n ≤ first.length) :
    behind ((first ++ u).take n) = (line, column) ↔
      Inside (first :: more) line column ∧ n = lineStart (first :: more) line + column - 1 := by
  rw [behind_first hfirst hn, Prod.mk.injEq]
  match line with
  | 0 => simp [not_inside_zero]
  | 1 =>
      rw [inside_one, lineStart_one]
      omega
  | line + 2 =>
      rw [lineStart_succ]
      constructor
      · rintro ⟨hline, -⟩
        omega
      · rintro ⟨hinside, hoffset⟩
        have hcolumn := hinside.column_pos
        omega

-- The place behind so many characters of a text is the one place among its lines that has this offset.
theorem behind_take_iff :
    n ≤ t.length ∧ behind (t.take n) = (line, column) ↔
      Inside t.lines line column ∧ n = lineStart t.lines line + column - 1 := by
  induction t using Text.byLines generalizing line n with
  | last first hfirst =>
      rw [Text.lines_of_not_mem hfirst]
      constructor
      · rintro ⟨hn, hplace⟩
        rw [← List.append_nil first] at hplace
        exact (behind_first_iff hfirst hn).mp hplace
      · intro h
        have hline : line = 1 := by
          have hle : line ≤ 1 := h.1.line_le
          have hpos := h.1.line_pos
          omega
        subst hline
        have hn : n ≤ first.length := by
          have hcolumn := (inside_one.mp h.1).2
          have hstart : lineStart [first] 1 = 0 := lineStart_one
          omega
        have hplace := (behind_first_iff (u := []) hfirst hn).mpr h
        rw [List.append_nil] at hplace
        exact ⟨hn, hplace⟩
  | more first rest hfirst ih =>
      rw [Text.lines_append hfirst]
      by_cases hn : n ≤ first.length
      · rw [behind_first_iff hfirst hn, and_iff_right_iff_imp, List.length_append]
        intro
        omega
      · obtain ⟨m, rfl⟩ : ∃ m, n = first.length + 1 + m := ⟨n - (first.length + 1), by omega⟩
        have hlength : first.length + 1 + m ≤ (first ++ '\n' :: rest).length ↔ m ≤ rest.length := by
          rw [List.length_append, List.length_cons]
          omega
        rw [behind_later hfirst, hlength, Prod.mk.injEq]
        match line with
        | 0 => simp [not_inside_zero]
        | 1 =>
            have hpos : (behind (rest.take m)).1 ≠ 0 := Nat.succ_ne_zero _
            rw [inside_one, lineStart_one]
            omega
        | line + 2 =>
            have hrest : m ≤ rest.length ∧ behind (rest.take m) = (line + 1, column) ↔ _ := ih
            rw [Prod.mk.injEq] at hrest
            rw [inside_succ, lineStart_succ, Nat.add_right_cancel_iff, hrest]
            refine and_congr_right fun hinside => ?_
            have hcolumn := hinside.column_pos
            omega

-- An offset further on lies in a later line, or further on in the same one.
theorem behind_append_lt (hne : u ≠ []) :
    Prod.Lex (· < ·) (· < ·) (behind before) (behind (before ++ u)) := by
  rw [Prod.lex_def]
  by_cases hmem : '\n' ∈ u
  · obtain ⟨inside, after, rfl, hinside⟩ := List.eq_append_cons_of_mem hmem
    have hpos : 0 < (behind after).1 := Nat.succ_pos _
    left
    rw [← List.append_assoc, behind_append_newline, behind_append hinside]
    omega
  · have hpos : 0 < u.length := List.length_pos_iff.mpr hne
    right
    rw [behind_append hmem]
    exact ⟨rfl, by omega⟩

theorem behind_take_lt {m : Nat} (hm : n < m) (hle : m ≤ t.length) :
    Prod.Lex (· < ·) (· < ·) (behind (t.take n)) (behind (t.take m)) := by
  obtain ⟨u, hu⟩ := List.take_prefix_take_left (l := t) (Nat.le_of_lt hm)
  have hne : u ≠ [] := by
    rintro rfl
    have hlength := congrArg List.length hu
    rw [List.append_nil, List.length_take_of_le hle, List.length_take_of_le (by omega)] at hlength
    omega
  exact hu ▸ behind_append_lt hne

-- Offsets of a text and places among its lines are the same thing in two ways: each offset has a place, each
-- place one offset, and what lies further on by the one does so by the other. Beyond the end lies the end,
-- and in front of a text nothing.
theorem lineCol_bijective (source : Text) :
    (∀ pos ≤ source.length, ∃ line column, lineCol source pos = .ok (line, column) ∧
      Inside source.lines line column ∧ pos = lineStart source.lines line + column - 1) ∧
    (∀ line column, Inside source.lines line column →
      lineStart source.lines line + column - 1 ≤ source.length ∧
      ∀ pos ≤ source.length, lineCol source pos = .ok (line, column) ↔
        pos = lineStart source.lines line + column - 1) ∧
    (∀ pos later : Nat, pos < later → later ≤ source.length →
      ∃ place laterPlace, lineCol source pos = .ok place ∧ lineCol source later = .ok laterPlace ∧
        Prod.Lex (· < ·) (· < ·) place laterPlace) ∧
    (∀ pos : Nat, source.length ≤ pos → lineCol source pos = lineCol source source.length) ∧
    (∀ (pos : Int) e, lineCol source pos = .error e ↔ pos < 0 ∧ e = .negative pos) := by
  refine ⟨fun pos hpos => ?_, fun line column hinside => ?_, fun pos later hlater hle => ?_,
    fun pos hpos => ?_, fun pos e => ?_⟩
  · obtain ⟨hplace, hoffset⟩ := behind_take_iff.mp ⟨hpos, rfl⟩
    exact ⟨_, _, lineCol_eq_ok source pos, hplace, hoffset⟩
  · refine ⟨(behind_take_iff.mpr ⟨hinside, rfl⟩).1, fun pos hpos => ?_⟩
    rw [lineCol_eq_ok, Except.ok.injEq]
    have hplace : pos ≤ source.length ∧ behind (source.take pos) = (line, column) ↔ _ := behind_take_iff
    simpa [hpos, hinside] using hplace
  · exact ⟨_, _, lineCol_eq_ok source pos, lineCol_eq_ok source later, behind_take_lt hlater hle⟩
  · rw [lineCol_eq_ok, lineCol_eq_ok, List.take_of_length_le hpos, List.take_length]
  · by_cases hneg : pos < 0
    · simp [lineCol, hneg, eq_comm]
    · simp [lineCol, hneg]

end Position

end Descent
