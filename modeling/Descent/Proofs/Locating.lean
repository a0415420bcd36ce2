import Descent.Runner
import Mathlib.Data.List.TakeWhile

namespace Descent

-- A span and an excerpt that show where `rest` begins in `source`.
structure Located (source rest : Text) (span : Span) (context : Text) : Prop where
  offset : Position.consumedOffset source rest = .ok span.start
  position : Stop.position source rest = span.start
  place : Position.lineCol source span.start = .ok (span.line, span.column)
  stop_eq : span.stop = source.length
  shown : Position.excerpt source span.start Position.contextLines = .ok context

theorem Span.ofInts_eq_ok {start stop line column : Nat} (hstop : start ≤ stop) (hline : 1 ≤ line)
    (hcolumn : 1 ≤ column) :
    ofInts start stop line column = .ok ⟨start, stop, line, column, hstop, hline, hcolumn⟩ := by
  have hstart : ¬(start : Int) < 0 := by omega
  have hstop' : ¬(stop : Int) < start := by omega
  have hline' : ¬(line : Int) < 1 := by omega
  have hcolumn' : ¬(column : Int) < 1 := by omega
  simp [ofInts, hstart, hstop', hline', hcolumn']

namespace Position

variable {source rest : Text}

theorem lineCol_eq_ok (source : Text) (n : Nat) :
    lineCol source n = .ok (behind (source.take n)) := by
  have hn : ¬(n : Int) < 0 := by omega
  simp [lineCol, hn]

theorem consumedOffset_eq_ok (h : rest <:+ source) :
    consumedOffset source rest = .ok (source.length - rest.length) := by
  simp [consumedOffset, h]

theorem excerpt_eq_ok (source : Text) (n : Nat) (context : Int) :
    ∃ text, excerpt source n context = .ok text := by
  unfold excerpt
  rw [lineCol_eq_ok]
  exact ⟨_, rfl⟩

end Position

theorem Stop.position_eq {source rest : Text} (h : rest <:+ source) :
    Stop.position source rest = (source.length - rest.length : Nat) := by
  have hlen := h.length_le
  unfold Stop.position
  omega

namespace Runner

theorem spanAt_eq_ok {source rest : Text} (h : rest <:+ source) :
    ∃ span, spanAt source rest = .ok span ∧ span.start = source.length - rest.length ∧
      span.stop = source.length ∧
      (span.line, span.column) = Position.behind (source.take span.start) := by
  let start := source.length - rest.length
  let place := Position.behind (source.take start)
  have hstop : start ≤ source.length := Nat.sub_le _ _
  have hline : 1 ≤ place.1 := Nat.le_add_left 1 _
  have hcolumn : 1 ≤ place.2 := Nat.le_add_left 1 _
  have hspan : spanAt source rest =
      .ok ⟨start, source.length, place.1, place.2, hstop, hline, hcolumn⟩ := by
    simp only [spanAt, Stop.position_eq h, Position.lineCol_eq_ok]
    rw [Span.ofInts_eq_ok hstop hline hcolumn]
    rfl
  exact ⟨_, hspan, rfl, rfl, rfl⟩

theorem locate_eq_ok {source rest : Text} (h : rest <:+ source) :
    ∃ span context, locate source rest = .ok (span, context) ∧
      Located source rest span context := by
  obtain ⟨span, hspan, hstart, hstop, hplace⟩ := spanAt_eq_ok h
  obtain ⟨context, hcontext⟩ := Position.excerpt_eq_ok source span.start Position.contextLines
  refine ⟨span, context, ?_, ?_⟩
  · rw [locate, hspan]
    dsimp only [bind, Except.bind]
    rw [hcontext]
    rfl
  · constructor
    · rw [Position.consumedOffset_eq_ok h, hstart]
    · rw [Stop.position_eq h, hstart]
    · rw [Position.lineCol_eq_ok, hplace]
    · exact hstop
    · exact hcontext

-- What may be left over at the end of a source is what tokens skip.
theorem isSpent_iff (rest : Text) : isSpent rest = true ↔ Text.skipBlanks rest = [] := by
  unfold isSpent Text.skipBlanks
  rw [List.all_eq_true, List.dropWhile_eq_nil_iff]

end Runner

end Descent
