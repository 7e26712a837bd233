/-
**The buffer graph of `progressive_streaming.c`.**

`refresh_ui` draws the buffered ranges of a download into an array of `GRAPH_LENGTH` characters with
a terminating NUL after them, marks the playback position, and prints the array. The first and the
last column of a range are scaled by its length, but the last one only after `start` has been
overwritten by the first column; the marker is put one column to the right of its place.

* `refreshUi` is this in order. It has no result when it divides by zero or writes outside of the
  array; the indices that it writes are kept.
* `RangeFits`, `MarkerFits`: for which ranges and positions it stays among the columns.
* `refresh_in_bounds_iff`: all divisors are nonzero, all indices are those of columns and the NUL is
  still there when the graph is printed exactly when every range and the position fit.
-/

import GstPipeline.Lib.Int32
import GstPipeline.Lib.Truncate
import Mathlib.Tactic.Linarith

namespace GstPipeline.Tutorials

open GstPipeline.Lib

/-! ### Ranges, positions and the array -/

/-- `GRAPH_LENGTH`. -/
def graphLength : Int := 78

/-- A buffered range, on the scale of `GST_FORMAT_PERCENT`. -/
structure BufferingRange where
  start : Int
  stop : Int
  low : 0 ≤ start
  ordered : start ≤ stop
  high : stop ≤ 1000000

/-- The answers to the position and the duration query. -/
structure Playback where
  position : Int
  duration : Int
  low : 0 ≤ position
  ordered : position ≤ duration
  positive : 0 < duration

def nul : Char := Char.ofNat 0

/-- The array, and the indices that were written to it. -/
structure Graph where
  cells : List Char
  written : List Int

/-- After `memset` and the assignment of the NUL. -/
def Graph.blank : Graph := ⟨List.replicate graphLength.toNat ' ' ++ [nul], []⟩

/-- `graph[i] = mark`, inside of the array. -/
def Graph.write (graph : Graph) (i : Int) (mark : Char) : Option Graph :=
  if 0 ≤ i ∧ i < graphLength + 1 then
    some ⟨graph.cells.set i.toNat mark, graph.written ++ [i]⟩
  else none

/-! ### `refresh_ui` -/

/-- A division of C. -/
def divide (a b : Int) : Option Int := if b = 0 then none else some (a.tdiv b)

/-- The loop over the columns of a range, from column `i` on. -/
def drawColumns (graph : Graph) (i : Int) : ℕ → Option Graph
  | 0 => some graph
  | left + 1 => (graph.write i '-').bind fun graph => drawColumns graph (i + 1) left

/-- The body of the loop over the ranges. -/
def drawRange (graph : Graph) (range : BufferingRange) : Option Graph :=
  (divide (range.start * graphLength) (range.stop - range.start)).bind fun start =>
    (divide (range.stop * graphLength) (range.stop - start)).bind fun stop =>
      drawColumns graph (toInt32 start) (stop - toInt32 start).toNat

/-- The column of the position marker. -/
def markerColumn (playback : Playback) : Int :=
  toInt32 (truncate (((graphLength * playback.position : Int) : ℚ) / playback.duration + 1))

/-- The position marker, if both queries were answered. -/
def drawMarker (bufLv : Int) (graph : Graph) : Option Playback → Option Graph
  | none => some graph
  | some playback => graph.write (markerColumn playback) (if bufLv < 100 then 'X' else '>')

/-- `refresh_ui`, up to the printing of the graph. -/
def refreshUi (ranges : List BufferingRange) (playback : Option Playback) (bufLv : Int) :
    Option Graph :=
  (ranges.foldlM drawRange Graph.blank).bind fun graph => drawMarker bufLv graph playback

/-! ### What is drawn -/

/-- Every index written is one of a column. -/
def Graph.InColumns (graph : Graph) : Prop := ∀ i ∈ graph.written, 0 ≤ i ∧ i < graphLength

/-- The NUL is where it was put. -/
def Graph.Terminated (graph : Graph) : Prop := graph.cells[graphLength.toNat]? = some nul

/-- For these the loop over the columns stays in the graph. -/
def RangeFits (range : BufferingRange) : Prop :=
  let first := range.start * graphLength / (range.stop - range.start)
  range.start ≠ range.stop ∧ first ≠ range.stop ∧
    (range.stop < first ∨ (graphLength + 1) * first < range.stop ∨
      range.stop * graphLength < (first + 1) * (range.stop - first))

instance (range : BufferingRange) : Decidable (RangeFits range) :=
  inferInstanceAs (Decidable (_ ∧ _ ∧ _))

/-- For these the marker is in the graph. -/
def MarkerFits (playback : Playback) : Prop :=
  graphLength * playback.position < (graphLength - 1) * playback.duration

instance (playback : Playback) : Decidable (MarkerFits playback) :=
  inferInstanceAs (Decidable (_ < _))

section Drawing

variable {graph : Graph}

/-- A write to a column. -/
theorem write_inColumns_iff {i : Int} {mark : Char} :
    (∃ after, graph.write i mark = some after ∧ after.InColumns) ↔
      graph.InColumns ∧ 0 ≤ i ∧ i < graphLength := by
  unfold Graph.write Graph.InColumns
  constructor
  · rintro ⟨after, written, columns⟩
    split at written <;> cases written
    refine ⟨fun j member => columns j (List.mem_append_left _ member), ?_⟩
    exact columns i (by simp)
  · rintro ⟨columns, low, high⟩
    refine ⟨_, if_pos ⟨low, by omega⟩, fun j member => ?_⟩
    rcases List.mem_append.mp member with member | last
    · exact columns j member
    · rw [List.mem_singleton.mp last]
      exact ⟨low, high⟩

theorem drawColumns_inColumns_iff {i : Int} {left : ℕ} :
    (∃ after, drawColumns graph i left = some after ∧ after.InColumns) ↔
      graph.InColumns ∧ (left = 0 ∨ 0 ≤ i ∧ i + left ≤ graphLength) := by
  induction left generalizing graph i with
  | zero => simp [drawColumns]
  | succ left ih =>
    have rest : (∃ after, drawColumns graph i (left + 1) = some after ∧ after.InColumns) ↔
        ∃ middle, graph.write i '-' = some middle ∧
          (middle.InColumns ∧ (left = 0 ∨ 0 ≤ i + 1 ∧ i + 1 + left ≤ graphLength)) := by
      simp only [drawColumns, Option.bind_eq_some_iff, ← ih]
      constructor
      · rintro ⟨after, ⟨middle, written, drawn⟩, columns⟩
        exact ⟨middle, written, after, drawn, columns⟩
      · rintro ⟨middle, written, after, drawn, columns⟩
        exact ⟨after, ⟨middle, written, drawn⟩, columns⟩
    rw [rest]
    constructor
    · rintro ⟨middle, written, columns, bounded⟩
      obtain ⟨before, low, high⟩ := write_inColumns_iff.mp ⟨middle, written, columns⟩
      refine ⟨before, Or.inr ⟨low, ?_⟩⟩
      rcases bounded with rfl | bounded
      · omega
      · push_cast
        omega
    · rintro ⟨before, bounded⟩
      obtain ⟨low, high⟩ := bounded.resolve_left (Nat.succ_ne_zero left)
      push_cast at high
      obtain ⟨middle, written, columns⟩ :
          ∃ middle, graph.write i '-' = some middle ∧ middle.InColumns :=
        write_inColumns_iff.mpr ⟨before, low, by omega⟩
      exact ⟨middle, written, columns, Or.inr ⟨by omega, by omega⟩⟩

/-- **The columns of a range**, for a length that is not zero: with the first column `first` that
replaces `start`, the loop draws nothing or ends in the graph. -/
theorem columns_fit_iff {start stop first : Int} (low : 0 ≤ start) (longer : start < stop)
    (scaled : first = start * graphLength / (stop - start)) (differs : first ≠ stop) :
    ((stop * graphLength).tdiv (stop - first) ≤ first ∨
        (stop * graphLength).tdiv (stop - first) ≤ graphLength) ↔
      (stop < first ∨ (graphLength + 1) * first < stop ∨
        stop * graphLength < (first + 1) * (stop - first)) := by
  have nonneg : 0 ≤ first := by
    rw [scaled]
    exact Int.ediv_nonneg (Int.mul_nonneg low (by decide)) (by omega)
  have product : 0 ≤ stop * graphLength := Int.mul_nonneg (by omega) (by decide)
  rcases Int.lt_or_gt_of_ne differs with before | beyond
  · -- The divisor is positive, so the last column is a floor.
    have divisor : 0 < stop - first := by omega
    rw [Int.tdiv_eq_ediv_of_nonneg product, ← Int.lt_add_one_iff, ← Int.lt_add_one_iff,
      Int.ediv_lt_iff_lt_mul divisor, Int.ediv_lt_iff_lt_mul divisor]
    have second : stop * graphLength < (graphLength + 1) * (stop - first) ↔
        (graphLength + 1) * first < stop := by
      unfold graphLength
      omega
    rw [second]
    constructor
    · rintro (empty | inside)
      · exact Or.inr (Or.inr empty)
      · exact Or.inr (Or.inl inside)
    · rintro (beyond | inside | empty)
      · omega
      · exact Or.inr inside
      · exact Or.inl empty
  · -- The divisor is negative, so the last column is not right of the first.
    have divisor : (stop * graphLength).tdiv (stop - first) ≤ 0 :=
      Int.tdiv_nonpos_of_nonneg_of_nonpos product (by omega)
    exact ⟨fun _ => Or.inl beyond, fun _ => Or.inl (by omega)⟩

/-- A range is drawn in the graph exactly when it fits. -/
theorem drawRange_inColumns_iff {range : BufferingRange} :
    (∃ after, drawRange graph range = some after ∧ after.InColumns) ↔
      graph.InColumns ∧ RangeFits range := by
  obtain ⟨start, stop, low, ordered, high⟩ := range
  unfold drawRange RangeFits
  simp only
  by_cases empty : start = stop
  · simp [divide, empty]
  have longer : start < stop := by omega
  have product : 0 ≤ start * graphLength := Int.mul_nonneg low (by decide)
  generalize scaled : start * graphLength / (stop - start) = first
  have firstDivision : divide (start * graphLength) (stop - start) = some first := by
    unfold divide
    rw [if_neg (by omega), Int.tdiv_eq_ediv_of_nonneg product, scaled]
  rw [firstDivision, Option.bind_some]
  by_cases same : first = stop
  · simp [divide, same]
  have nonneg : 0 ≤ first := by
    rw [← scaled]
    exact Int.ediv_nonneg product (by omega)
  have bounded : first ≤ start * graphLength := by
    rw [← scaled]
    exact Int.ediv_le_self _ product
  have narrow : toInt32 first = first := by
    refine toInt32_eq_self ⟨by omega, ?_⟩
    unfold graphLength at bounded
    omega
  have secondDivision : divide (stop * graphLength) (stop - first) =
      some ((stop * graphLength).tdiv (stop - first)) := if_neg (by omega)
  rw [secondDivision, Option.bind_some, narrow, drawColumns_inColumns_iff,
    ← columns_fit_iff low longer scaled.symm same]
  generalize (stop * graphLength).tdiv (stop - first) = last
  refine and_congr_right fun _ => ⟨fun drawn => ⟨empty, same, ?_⟩, fun fits => ?_⟩
  · rcases drawn with none | ⟨_, drawn⟩
    · exact Or.inl (by omega)
    · exact (Int.le_total last first).imp id fun _ => by omega
  · rcases fits.2.2 with none | inside
    · exact Or.inl (by omega)
    · rcases Int.le_total last first with none | some'
      · exact Or.inl (by omega)
      · exact Or.inr ⟨nonneg, by omega⟩

theorem drawRanges_inColumns_iff {ranges : List BufferingRange} :
    (∃ after, ranges.foldlM drawRange graph = some after ∧ after.InColumns) ↔
      graph.InColumns ∧ ∀ range ∈ ranges, RangeFits range := by
  induction ranges generalizing graph with
  | nil => simp
  | cons range rest ih =>
    rw [List.forall_mem_cons, ← and_assoc, ← drawRange_inColumns_iff]
    simp only [List.foldlM_cons, Option.bind_eq_bind, Option.bind_eq_some_iff]
    constructor
    · rintro ⟨after, ⟨middle, drawn, later⟩, columns⟩
      obtain ⟨inside, fit⟩ := ih.mp ⟨after, later, columns⟩
      exact ⟨⟨middle, drawn, inside⟩, fit⟩
    · rintro ⟨⟨middle, drawn, inside⟩, fit⟩
      obtain ⟨after, later, columns⟩ := ih.mpr ⟨inside, fit⟩
      exact ⟨after, ⟨middle, drawn, later⟩, columns⟩

/-- Where the marker is put. -/
theorem markerColumn_eq (playback : Playback) :
    markerColumn playback = graphLength * playback.position / playback.duration + 1 := by
  obtain ⟨position, duration, low, ordered, positive⟩ := playback
  have product : 0 ≤ graphLength * position := Int.mul_nonneg (by decide) low
  have quotient : graphLength * position / duration ≤ 78 := by
    refine Int.ediv_le_of_le_mul positive ?_
    exact Int.mul_le_mul_of_nonneg_left ordered (by decide)
  have quotientNonneg := Int.ediv_nonneg product positive.le
  unfold markerColumn
  simp only
  rw [truncate_div_add_one product positive]
  exact toInt32_eq_self ⟨by omega, by omega⟩

theorem marker_fits_iff (playback : Playback) :
    0 ≤ markerColumn playback ∧ markerColumn playback < graphLength ↔ MarkerFits playback := by
  have quotientNonneg : 0 ≤ graphLength * playback.position / playback.duration :=
    Int.ediv_nonneg (Int.mul_nonneg (by decide) playback.low) playback.positive.le
  rw [markerColumn_eq]
  unfold MarkerFits
  rw [← Int.ediv_lt_iff_lt_mul playback.positive]
  constructor
  · rintro ⟨_, inside⟩
    omega
  · intro inside
    exact ⟨by omega, by omega⟩

end Drawing

/-! ### The terminating NUL -/

section Nul

variable {graph after : Graph}

/-- As long as the indices are those of columns, the NUL stays. -/
def Graph.Sound (graph : Graph) : Prop := graph.InColumns → graph.Terminated

theorem sound_write {i : Int} {mark : Char} (sound : graph.Sound)
    (written : graph.write i mark = some after) : after.Sound := by
  unfold Graph.write at written
  split at written <;> cases written
  intro columns
  have before : graph.Terminated :=
    sound fun j member => columns j (List.mem_append_left _ member)
  obtain ⟨low, high⟩ := columns i (by simp)
  have apart : i.toNat ≠ graphLength.toNat := by omega
  unfold Graph.Terminated at before ⊢
  rw [List.getElem?_set_ne apart]
  exact before

theorem sound_drawColumns {i : Int} {left : ℕ} (sound : graph.Sound)
    (drawn : drawColumns graph i left = some after) : after.Sound := by
  induction left generalizing graph i with
  | zero =>
    cases drawn
    exact sound
  | succ left ih =>
    obtain ⟨middle, written, later⟩ := Option.bind_eq_some_iff.mp drawn
    exact ih (sound_write sound written) later

theorem sound_drawRanges {ranges : List BufferingRange} (sound : graph.Sound)
    (drawn : ranges.foldlM drawRange graph = some after) : after.Sound := by
  induction ranges generalizing graph with
  | nil =>
    cases drawn
    exact sound
  | cons range rest ih =>
    rw [List.foldlM_cons] at drawn
    obtain ⟨middle, first, later⟩ := Option.bind_eq_some_iff.mp drawn
    obtain ⟨_, _, columns⟩ := Option.bind_eq_some_iff.mp first
    obtain ⟨_, _, columns⟩ := Option.bind_eq_some_iff.mp columns
    exact ih (sound_drawColumns sound columns) later

end Nul

/-! ### The whole graph -/

/-- `refresh_ui` divides by no zero, writes to columns only, and prints a graph with its NUL. -/
def InBounds (result : Option Graph) : Prop :=
  ∃ graph, result = some graph ∧ graph.InColumns ∧ graph.Terminated

theorem refresh_inColumns_iff (ranges : List BufferingRange) (playback : Playback) (bufLv : Int) :
    (∃ graph, refreshUi ranges (some playback) bufLv = some graph ∧ graph.InColumns) ↔
      (∀ range ∈ ranges, RangeFits range) ∧ MarkerFits playback := by
  have blank : Graph.blank.InColumns := nofun
  unfold refreshUi
  simp only [Option.bind_eq_some_iff]
  constructor
  · rintro ⟨graph, ⟨middle, drawn, marked⟩, columns⟩
    obtain ⟨inside, marker⟩ := write_inColumns_iff.mp ⟨graph, marked, columns⟩
    exact ⟨(drawRanges_inColumns_iff.mp ⟨middle, drawn, inside⟩).2,
      (marker_fits_iff playback).mp marker⟩
  · rintro ⟨fit, marker⟩
    obtain ⟨middle, drawn, inside⟩ := drawRanges_inColumns_iff.mpr ⟨blank, fit⟩
    obtain ⟨graph, marked, columns⟩ := write_inColumns_iff.mpr
      ⟨inside, (marker_fits_iff playback).mpr marker⟩
    exact ⟨graph, ⟨middle, drawn, marked⟩, columns⟩

theorem sound_refresh {ranges : List BufferingRange} {playback : Option Playback} {bufLv : Int}
    {graph : Graph} (refreshed : refreshUi ranges playback bufLv = some graph) : graph.Sound := by
  obtain ⟨middle, drawn, marked⟩ := Option.bind_eq_some_iff.mp refreshed
  have blank : Graph.blank.Sound := fun _ => rfl
  have sound : middle.Sound := sound_drawRanges blank drawn
  cases playback with
  | none =>
    cases marked
    exact sound
  | some playback => exact sound_write sound marked

/-- **The buffer graph stays in bounds** exactly when each range and the position fit. -/
theorem refresh_in_bounds_iff (ranges : List BufferingRange) (playback : Playback) (bufLv : Int) :
    InBounds (refreshUi ranges (some playback) bufLv) ↔
      (∀ range ∈ ranges, RangeFits range) ∧ MarkerFits playback := by
  rw [← refresh_inColumns_iff ranges playback bufLv]
  constructor
  · rintro ⟨graph, refreshed, columns, _⟩
    exact ⟨graph, refreshed, columns⟩
  · rintro ⟨graph, refreshed, columns⟩
    exact ⟨graph, refreshed, columns, sound_refresh refreshed columns⟩

/-- **Three ways out of the graph**: an empty range, a range whose last column is far outside, and
the end of the stream. -/
theorem refresh_out_of_bounds :
    ¬ InBounds (refreshUi [⟨5, 5, by decide, by decide, by decide⟩]
        (some ⟨0, 10, by decide, by decide, by decide⟩) 50) ∧
      ¬ InBounds (refreshUi [⟨30, 70, by decide, by decide, by decide⟩]
        (some ⟨0, 10, by decide, by decide, by decide⟩) 50) ∧
      ¬ InBounds (refreshUi [] (some ⟨10, 10, by decide, by decide, by decide⟩) 100) := by
  refine ⟨?_, ?_, ?_⟩ <;> rintro ⟨graph, refreshed, columns, _⟩ <;>
    have fits := (refresh_inColumns_iff ..).mp ⟨graph, refreshed, columns⟩
  · exact absurd fits.1 (by decide)
  · exact absurd fits.1 (by decide)
  · exact absurd fits.2 (by decide)

end GstPipeline.Tutorials
