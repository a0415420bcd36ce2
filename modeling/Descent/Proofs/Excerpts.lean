import Descent.Diagnostic
import Descent.Proofs.Places
import Mathlib.Data.List.Intervals

namespace Descent

namespace Text

variable {rows : List Text} {line t : Text}

theorem lines_append_newline (t u : Text) : lines (t ++ '\n' :: u) = lines t ++ lines u := by
  induction t using byLines with
  | last line hline =>
      rw [lines_append hline, lines_of_not_mem hline]
      rfl
  | more first rest hfirst ih =>
      rw [List.append_assoc, List.cons_append, lines_append hfirst, lines_append hfirst, ih]
      rfl

theorem lines_intercalate (h : rows ≠ []) :
    lines (List.intercalate ['\n'] rows) = rows.flatMap lines := by
  induction rows with
  | nil => exact absurd rfl h
  | cons row rows ih =>
      cases rows with
      | nil => simp
      | cons next others =>
          rw [List.intercalate_cons_cons, List.append_assoc, List.singleton_append,
            lines_append_newline, ih (by simp)]
          exact List.flatMap_cons.symm

theorem flatMap_lines (h : ∀ row ∈ rows, '\n' ∉ row) : rows.flatMap lines = rows := by
  induction rows with
  | nil => rfl
  | cons row rows ih =>
      obtain ⟨hrow, hrows⟩ := List.forall_mem_cons.mp h
      rw [List.flatMap_cons, lines_of_not_mem hrow, ih hrows]
      rfl

theorem not_mem_of_mem_lines (h : line ∈ lines t) : '\n' ∉ line := by
  induction t using byLines with
  | last first hfirst =>
      rw [lines_of_not_mem hfirst, List.mem_singleton] at h
      exact h ▸ hfirst
  | more first rest hfirst ih =>
      rw [lines_append hfirst, List.mem_cons] at h
      rcases h with rfl | h
      · exact hfirst
      · exact ih h

theorem takeWhile_append (h : '\n' ∉ line) (t : Text) :
    (line ++ t).takeWhile (· != '\n') = line ++ t.takeWhile (· != '\n') := by
  refine List.takeWhile_append_of_pos fun c hc => ?_
  have hne : c ≠ '\n' := fun heq => h (heq ▸ hc)
  simpa using hne

theorem getElem?_lines_zero (t : Text) : (lines t)[0]? = some (t.takeWhile (· != '\n')) := by
  induction t using byLines with
  | last line hline =>
      have htake := takeWhile_append hline []
      rw [List.append_nil] at htake
      simp [lines_of_not_mem hline, htake]
  | more first rest hfirst ih =>
      rw [lines_append hfirst, takeWhile_append hfirst]
      simp

end Text

namespace Position

variable {lines : List Text} {line column context first last : Nat}

-- What the line of a place has in front of the place, and what it has behind it.
theorem exists_line_behind (before rest : Text) :
    ∃ front, front <:+ before ∧ (behind before).2 = front.length + 1 ∧
      (before ++ rest).lines[(behind before).1 - 1]? = some (front ++ rest.takeWhile (· != '\n')) := by
  induction before using Text.byLines with
  | last front hfront =>
      refine ⟨front, List.suffix_refl front, ?_, ?_⟩
      · rw [behind_of_not_mem hfront]
      · rw [behind_of_not_mem hfront, ← Text.takeWhile_append hfront]
        exact Text.getElem?_lines_zero _
  | more first others hfirst ih =>
      obtain ⟨front, hfront, hcolumn, hline⟩ := ih
      have hlater : (behind others).1 = (behind others).1 - 1 + 1 := rfl
      refine ⟨front, ?_, ?_, ?_⟩
      · exact hfront.trans ((List.suffix_cons '\n' others).trans (List.suffix_append first _))
      · rw [behind_append_newline, hcolumn]
      · rw [behind_append_newline, behind_of_not_mem hfirst, Nat.add_sub_cancel_left, hlater,
          List.append_assoc, List.cons_append, Text.lines_append hfirst, List.getElem?_cons_succ, hline]

-- The number of a line, to the right of four places or in as many as it takes.
def numberField (number : Nat) : Text :=
  List.leftpad 4 ' ' (Nat.toDigits 10 number)

-- The row of a line.
def lineRow (lines : List Text) (number : Nat) : Text :=
  numberField number ++ [' ', '|', ' '] ++ lines[number - 1]?.getD []

theorem newline_not_mem_numberField (number : Nat) : '\n' ∉ numberField number := by
  have hdigits : '\n' ∉ Nat.toDigits 10 number := fun h =>
    absurd (Nat.isDigit_of_mem_toDigits (by decide) (by decide) h) (by decide)
  simp [numberField, List.leftpad, hdigits]

theorem newline_not_mem_lineRow (source : Text) (number : Nat) :
    '\n' ∉ lineRow source.lines number := by
  have htext : '\n' ∉ source.lines[number - 1]?.getD [] := by
    cases hline : source.lines[number - 1]? with
    | none => simp
    | some line => exact Text.not_mem_of_mem_lines (List.mem_of_getElem? hline)
  simp [lineRow, newline_not_mem_numberField, htext]

-- The caret's row: the bar below the bar, and the caret below what stands behind so many characters.
theorem caretRow_eq (number width : Nat) :
    caretRow number (width + 1) = List.replicate (numberField number).length ' ' ++ [' ', '|', ' '] ++
      List.replicate width ' ' ++ ['^'] := by
  have hhead : (rowHead number).length = (numberField number).length + 3 := List.length_append
  have hbar : (rowHead number).length - 2 = (numberField number).length + 1 := by omega
  rw [caretRow, hbar, List.replicate_succ']
  simp

theorem newline_not_mem_caretRow (number width : Nat) : '\n' ∉ caretRow number (width + 1) := by
  simp [caretRow_eq]

-- What a line comes to in the excerpt around another line, or around itself.
def rowsAt (lines : List Text) (line column context number : Nat) : List Text :=
  if (line - context : Int) ≤ number ∧ (number : Int) ≤ line + context then
    if number = line then [lineRow lines number, caretRow line column] else [lineRow lines number]
  else []

theorem excerptRows_eq_flatMap (lines : List Text) (line column context : Nat) :
    excerptRows lines line column (line - context) (line + context) =
      (List.Ico 1 (lines.length + 1)).flatMap (rowsAt lines line column context) := by
  have hlines : lines.zipIdx 1 = (List.Ico 1 (lines.length + 1)).map fun number =>
      (lines[number - 1]?.getD [], number) := by
    refine List.ext_getElem (by simp) fun i hi _ => ?_
    have hlt : i < lines.length := by simpa using hi
    simp [List.Ico, hlt, Nat.add_comm]
  rw [excerptRows, hlines, List.flatMap_map]
  rfl

theorem rowsAt_self (lines : List Text) (line column context : Nat) :
    rowsAt lines line column context line = [lineRow lines line, caretRow line column] := by
  have hwindow : (line - context : Int) ≤ line ∧ (line : Int) ≤ line + context := by omega
  rw [rowsAt, if_pos hwindow, if_pos rfl]

theorem flatMap_rowsAt_hidden (h : ∀ number, first ≤ number → number < last →
      number + context < line ∨ line + context < number) :
    (List.Ico first last).flatMap (rowsAt lines line column context) = [] := by
  refine List.flatMap_eq_nil_iff.mpr fun number hnumber => if_neg ?_
  obtain ⟨hfirst, hlast⟩ := List.Ico.mem.mp hnumber
  have hfar := h number hfirst hlast
  omega

theorem flatMap_rowsAt_shown (h : ∀ number, first ≤ number → number < last →
      number ≠ line ∧ line ≤ number + context ∧ number ≤ line + context) :
    (List.Ico first last).flatMap (rowsAt lines line column context) =
      (List.Ico first last).map (lineRow lines) := by
  rw [List.map_eq_flatMap]
  refine List.flatMap_congr fun number hnumber => ?_
  obtain ⟨hfirst, hlast⟩ := List.Ico.mem.mp hnumber
  obtain ⟨hother, hlower, hupper⟩ := h number hfirst hlast
  have hwindow : (line - context : Int) ≤ number ∧ (number : Int) ≤ line + context := by omega
  rw [rowsAt, if_pos hwindow, if_neg hother]

-- The lines of the source are those in front of the window, those of the window up to the line of the place,
-- that line itself, those behind it, and those behind the window.
theorem excerptRows_eq (context column : Nat) (hpos : 1 ≤ line) (hle : line ≤ lines.length) :
    excerptRows lines line column (line - context) (line + context) =
      (List.Ico (max 1 (line - context)) line).map (lineRow lines) ++ lineRow lines line ::
        caretRow line column ::
          (List.Ico (line + 1) (min lines.length (line + context) + 1)).map (lineRow lines) := by
  have hparts : List.Ico 1 (lines.length + 1) =
      List.Ico 1 (max 1 (line - context)) ++ (List.Ico (max 1 (line - context)) line ++
        (line :: (List.Ico (line + 1) (min lines.length (line + context) + 1) ++
          List.Ico (min lines.length (line + context) + 1) (lines.length + 1)))) := by
    rw [List.Ico.append_consecutive (by omega) (by omega), ← List.Ico.eq_cons (by omega),
      List.Ico.append_consecutive (by omega) (by omega),
      List.Ico.append_consecutive (by omega) (by omega)]
  rw [excerptRows_eq_flatMap, hparts, List.flatMap_append, List.flatMap_append, List.flatMap_cons,
    List.flatMap_append, rowsAt_self, flatMap_rowsAt_hidden (by omega), flatMap_rowsAt_shown (by omega),
    flatMap_rowsAt_shown (by omega), flatMap_rowsAt_hidden (by omega)]
  simp

theorem lines_excerptRows (source : Text) (context width : Nat) (hpos : 1 ≤ line)
    (hle : line ≤ source.lines.length) :
    Text.lines (List.intercalate ['\n']
        (excerptRows source.lines line (width + 1) (line - context) (line + context))) =
      excerptRows source.lines line (width + 1) (line - context) (line + context) := by
  rw [excerptRows_eq context (width + 1) hpos hle, Text.lines_intercalate (by simp), Text.flatMap_lines]
  simp only [List.forall_mem_append, List.forall_mem_cons, List.forall_mem_map]
  exact ⟨fun number _ => newline_not_mem_lineRow source number, newline_not_mem_lineRow source line,
    newline_not_mem_caretRow line width, fun number _ => newline_not_mem_lineRow source number⟩

end Position

namespace Diagnostic

theorem lines_report {d : Diagnostic} {shown : Text} (h : d.context = some shown) (hne : shown ≠ []) :
    d.report.lines = (d.headRow :: d.spanRows).flatMap Text.lines ++ shown.lines.map (' ' :: ' ' :: ·) ++
      d.hintRows.flatMap Text.lines := by
  obtain ⟨c, rest, rfl⟩ := List.exists_cons_of_ne_nil hne
  have hcontext : d.contextRows = (Text.lines (c :: rest)).map (' ' :: ' ' :: ·) := by
    simp only [contextRows, h]
  have hindented : d.contextRows.flatMap Text.lines = d.contextRows := by
    refine Text.flatMap_lines fun row hrow => ?_
    rw [hcontext] at hrow
    obtain ⟨line, hline, rfl⟩ := List.mem_map.mp hrow
    simpa using Text.not_mem_of_mem_lines hline
  rw [report, Text.lines_intercalate (by simp), List.flatMap_append, List.flatMap_append, hindented, hcontext]

end Diagnostic

namespace Position

-- Around every place there is an excerpt. It has a row for each line of the window and, right behind that of
-- the place, one more with the bar below the bar and the caret below the first character that the line has
-- from the place on, or one column behind the row if it has none. A report has all rows of its excerpt with
-- the same two blanks in front of them.
theorem excerpt_shows_place (source : Text) (pos context : Nat) :
    (∃ line column front rest shown, lineCol source pos = .ok (line, column) ∧
      front <:+ source.take pos ∧ rest = (source.drop pos).takeWhile (· != '\n') ∧
      source.lines[line - 1]? = some (front ++ rest) ∧ excerpt source pos context = .ok shown ∧
      shown.lines =
        (List.Ico (max 1 (line - context)) line).map (lineRow source.lines) ++
        (numberField line ++ [' ', '|', ' '] ++ front ++ rest) ::
        (List.replicate (numberField line).length ' ' ++ [' ', '|', ' '] ++
          List.replicate front.length ' ' ++ ['^']) ::
        (List.Ico (line + 1) (min source.lines.length (line + context) + 1)).map
          (lineRow source.lines)) ∧
    ∀ (d : Diagnostic) (shown : Text), d.context = some shown → shown ≠ [] →
      d.report.lines = (d.headRow :: d.spanRows).flatMap Text.lines ++
        shown.lines.map (' ' :: ' ' :: ·) ++ d.hintRows.flatMap Text.lines := by
  refine ⟨?_, fun d shown => Diagnostic.lines_report⟩
  obtain ⟨front, hfront, hcolumn, hline⟩ := exists_line_behind (source.take pos) (source.drop pos)
  have hplace := lineCol_eq_ok source pos
  have hpos : 1 ≤ (behind (source.take pos)).1 := Nat.succ_pos _
  rw [List.take_append_drop] at hline
  generalize behind (source.take pos) = place at hcolumn hline hplace hpos
  obtain ⟨line, column⟩ := place
  dsimp only at hcolumn hline hpos
  subst hcolumn
  have hle : line ≤ source.lines.length := by
    have hlt := (List.getElem?_eq_some_iff.mp hline).1
    omega
  have hexcerpt : excerpt source pos context = .ok (List.intercalate ['\n']
      (excerptRows source.lines line (front.length + 1) (line - context) (line + context))) := by
    rw [excerpt, hplace]
    rfl
  have hown : lineRow source.lines line =
      numberField line ++ [' ', '|', ' '] ++ front ++ (source.drop pos).takeWhile (· != '\n') := by
    rw [lineRow, hline, Option.getD_some, List.append_assoc _ front]
  refine ⟨line, front.length + 1, front, _, _, hplace, hfront, rfl, hline, hexcerpt, ?_⟩
  rw [lines_excerptRows source context front.length hpos hle, excerptRows_eq context _ hpos hle, hown,
    caretRow_eq]

-- The second character of the second line out of three, and the excerpt of that line alone.
def questioned : Text :=
  ['a', '\n', 'b', '?', '\n', 'c']

def questionShown : Text :=
  [' ', ' ', ' ', '2', ' ', '|', ' ', 'b', '?', '\n', ' ', ' ', ' ', ' ', ' ', '|', ' ', ' ', '^']

theorem excerpt_shows_place_question :
    excerpt questioned 3 0 = .ok questionShown ∧
    (Failure.rejection none "'?'" (some questionShown)).report.lines =
      (Failure.rejection none "'?'" (some questionShown)).headRow.lines ++
        [[' ', ' ', ' ', ' ', ' ', '2', ' ', '|', ' ', 'b', '?'],
          [' ', ' ', ' ', ' ', ' ', ' ', ' ', '|', ' ', ' ', '^']] := by
  have hreport := (excerpt_shows_place questioned 3 0).2
    (Failure.rejection none "'?'" (some questionShown)) questionShown rfl (by decide)
  refine ⟨rfl, hreport.trans ?_⟩
  simp [Failure.rejection, Diagnostic.spanRows, Diagnostic.hintRows, questionShown, Text.lines]

end Position

end Descent
