import Worksheet.Proofs.Pivot.MergeTree
import Worksheet.Proofs.Pivot.Runs

/-!
Scans of cells by parts.

The cells of a sequence are cut into parts, each part is scanned into an accumulator of its own, and
the accumulators are merged as a tree says. A mark of a calculated item may stand anywhere in a
part. Whatever the tree, the result reflects the events of the whole sequence in their order
(`reflects_accumulate_scan`), and so it agrees with one scan of the sequence in all that rounding
leaves alone (`accumulate_scan_agrees`).
-/

set_option autoImplicit false
set_option relaxedAutoImplicit false

namespace Worksheet.Pivot

inductive ScanStep where
  | cell (c : Cell)
  | markCalculated

def Accumulator.scanStep (s : MachineAccumulator) : ScanStep → MachineAccumulator
  | .cell c => s.addCell c
  | .markCalculated => s.markCalculated

/-- The accumulator of one part, from an empty one. -/
def scan (part : List ScanStep) : MachineAccumulator :=
  part.foldl Accumulator.scanStep .empty

/-- The cells of a part, without the marks. -/
def cellsOf : List ScanStep → List Cell
  | [] => []
  | .cell c :: part => c :: cellsOf part
  | .markCalculated :: part => cellsOf part

/-- The events that the cells are to a scan. -/
def eventsOf (cs : List Cell) : List Event := cs.flatMap fun c ↦ (Event.ofCell? c).toList

@[simp] theorem eventsOf_cons (c : Cell) (cs : List Cell) :
    eventsOf (c :: cs) = (Event.ofCell? c).toList ++ eventsOf cs := rfl

@[simp] theorem eventsOf_append (cs ds : List Cell) :
    eventsOf (cs ++ ds) = eventsOf cs ++ eventsOf ds := List.flatMap_append

@[simp] theorem cellsOf_append (part rest : List ScanStep) :
    cellsOf (part ++ rest) = cellsOf part ++ cellsOf rest := by
  induction part with
  | nil => rfl
  | cons step part ih => cases step <;> simp [cellsOf, ih]

@[simp] theorem cellsOf_map_cell (cs : List Cell) : cellsOf (cs.map .cell) = cs := by
  induction cs with
  | nil => rfl
  | cons c cs ih => simp [cellsOf, ih]

/-- The first error among the events is that of the first cell that is an error. -/
theorem findSome?_eventsOf (cs : List Cell) :
    (eventsOf cs).findSome? Event.error? = (cs.findSome? Cell.error?).map CellError.kind := by
  induction cs with
  | nil => rfl
  | cons c cs ih =>
    rw [eventsOf_cons, List.findSome?_append, ih, List.findSome?_cons]
    cases c <;> rfl

/-! ### One part -/

theorem Reflects.foldl_scanStep {s : MachineAccumulator} {log : List Event}
    (h : Reflects s log) (part : List ScanStep) :
    Reflects (part.foldl Accumulator.scanStep s) (log ++ eventsOf (cellsOf part)) := by
  induction part generalizing s log with
  | nil => simpa [cellsOf, eventsOf] using h
  | cons step part ih =>
    cases step with
    | cell c =>
      have hrest := ih (h.addCell c)
      rwa [List.append_assoc] at hrest
    | markCalculated => exact ih h.markCalculated

theorem reflects_scan (part : List ScanStep) : Reflects (scan part) (eventsOf (cellsOf part)) :=
  Reflects.empty.foldl_scanStep part

theorem calculated_foldl_scanStep_iff (s : MachineAccumulator) (part : List ScanStep) :
    (part.foldl Accumulator.scanStep s).calculated = true ↔
      s.calculated = true ∨ ScanStep.markCalculated ∈ part := by
  induction part generalizing s with
  | nil => simp
  | cons step part ih =>
    rw [List.foldl_cons, ih]
    cases step with
    | cell c => simp [Accumulator.scanStep]
    | markCalculated => simp [Accumulator.scanStep, Accumulator.markCalculated]

theorem scan_map_cell (cs : List Cell) :
    scan (cs.map .cell) = cs.foldl Accumulator.addCell .empty := List.foldl_map

/-! ### All parts -/

namespace MergeTree

/-- A tree of merges reflects the events of its parts from left to right. -/
theorem reflects_accumulate_scan (t : MergeTree (List ScanStep)) :
    Reflects (t.accumulate scan) (eventsOf (cellsOf t.parts.flatten)) := by
  induction t with
  | part steps =>
    rw [parts, List.flatten_singleton]
    exact reflects_scan steps
  | join left right hleft hright =>
    rw [parts, List.flatten_append, cellsOf_append, eventsOf_append]
    exact hleft.merge hright

theorem calculated_accumulate_scan_iff (t : MergeTree (List ScanStep)) :
    (t.accumulate scan).calculated = true ↔ ∃ part ∈ t.parts, ScanStep.markCalculated ∈ part := by
  induction t with
  | part steps =>
    rw [accumulate, scan, calculated_foldl_scanStep_iff]
    simp [parts, Accumulator.empty]
  | join left right hleft hright =>
    have hmerge : ((join left right).accumulate scan).calculated =
        ((left.accumulate scan).calculated || (right.accumulate scan).calculated) := rfl
    rw [hmerge, Bool.or_eq_true, hleft, hright]
    simp [parts, or_and_right, exists_or]

/-- However a sequence of cells is cut into parts and the parts are merged in their order, the
counts and the error are those of one scan of the sequence. The error is the first of the sequence,
and the result is calculated if a part was marked. -/
theorem accumulate_scan_agrees (t : MergeTree (List ScanStep)) (cs : List Cell)
    (hcut : cellsOf t.parts.flatten = cs) :
    (t.accumulate scan).count = (cs.foldl Accumulator.addCell .empty).count ∧
      (t.accumulate scan).numbers = (cs.foldl Accumulator.addCell .empty).numbers ∧
      (t.accumulate scan).error = (cs.foldl Accumulator.addCell .empty).error ∧
      (t.accumulate scan).error = (cs.findSome? Cell.error?).map CellError.kind ∧
      ((t.accumulate scan).calculated = true ↔
        ∃ part ∈ t.parts, ScanStep.markCalculated ∈ part) := by
  have hparts : Reflects (t.accumulate scan) (eventsOf cs) := hcut ▸ t.reflects_accumulate_scan
  have hwhole : Reflects (cs.foldl Accumulator.addCell .empty) (eventsOf cs) := by
    have hscan := reflects_scan (cs.map .cell)
    rwa [cellsOf_map_cell, scan_map_cell] at hscan
  refine ⟨hparts.count.trans hwhole.count.symm, hparts.numbers.trans hwhole.numbers.symm,
    hparts.error.trans hwhole.error.symm, ?_, t.calculated_accumulate_scan_iff⟩
  rw [hparts.error, findSome?_eventsOf]

/-- Errors in the first and in the last part, and an empty part between them. -/
def threeParts : MergeTree (List ScanStep) :=
  join (part [.cell (.text "a"), .cell (.error ⟨.notAvailable, none⟩)])
    (join (part []) (part [.cell (.error ⟨.value, none⟩), .markCalculated, .cell (.int 2)]))

theorem accumulate_scan_threeParts :
    cellsOf threeParts.parts.flatten =
        [.text "a", .error ⟨.notAvailable, none⟩, .error ⟨.value, none⟩, .int 2] ∧
      (threeParts.accumulate scan).count = 2 ∧ (threeParts.accumulate scan).numbers = 1 ∧
      (threeParts.accumulate scan).error = some .notAvailable ∧
      (threeParts.accumulate scan).calculated = true := by
  obtain ⟨hcount, hnumbers, -, herror, hcalculated⟩ := accumulate_scan_agrees threeParts
    [.text "a", .error ⟨.notAvailable, none⟩, .error ⟨.value, none⟩, .int 2] rfl
  refine ⟨rfl, hcount, hnumbers, herror, hcalculated.mpr ?_⟩
  exact ⟨[.cell (.error ⟨.value, none⟩), .markCalculated, .cell (.int 2)],
    by simp [threeParts, parts], by simp⟩

end MergeTree

end Worksheet.Pivot
