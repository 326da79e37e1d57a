import Worksheet.Pivot.Summary

/-!
Runs of operations on accumulators, and what an accumulator keeps of them.

The log of a run lists the events that its accumulator has taken since the last reset; a merge
takes the log of a run of its own, behind its own log. The counts of an accumulator are those of
its log, as words, and its error is the first of its log (`reflects_log`). A count is the word of
its own number as long as fewer rows than there are words have been counted (`toNat_count`).
-/

set_option autoImplicit false
set_option relaxedAutoImplicit false

namespace Worksheet.Pivot

/-- What an accumulator takes note of. -/
inductive Event where
  | number (x : Float)
  | presence
  | error (kind : ErrorKind)

namespace Event

/-- The event that a cell is to a scan; a blank is none. -/
def ofCell? : Cell → Option Event
  | .number x => some (.number x)
  | .int i => some (.number (Decimal.floatOfInt i))
  | .error e => some (.error e.kind)
  | .empty => none
  | _ => some .presence

/-- Errors count no row. -/
def isRow : Event → Bool
  | error _ => false
  | _ => true

def isNumber : Event → Bool
  | number _ => true
  | _ => false

def error? : Event → Option ErrorKind
  | error kind => some kind
  | _ => none

/-- A number is in a row that counts. -/
theorem countP_isNumber_le (log : List Event) : log.countP isNumber ≤ log.countP isRow := by
  refine List.countP_mono_left fun e _ he ↦ ?_
  cases e with
  | number x => rfl
  | presence => rfl
  | error kind => exact absurd he Bool.false_ne_true

end Event

def Accumulator.record (s : MachineAccumulator) : Event → MachineAccumulator
  | .number x => s.add x
  | .presence => s.addCount
  | .error kind => s.addError kind

theorem Accumulator.addCell_eq_record (s : MachineAccumulator) (c : Cell) :
    s.addCell c = (Event.ofCell? c).elim s s.record := by
  cases c <;> rfl

@[simp] theorem Accumulator.calculated_record (s : MachineAccumulator) (e : Event) :
    (s.record e).calculated = s.calculated := by
  cases e <;> rfl

@[simp] theorem Accumulator.calculated_addCell (s : MachineAccumulator) (c : Cell) :
    (s.addCell c).calculated = s.calculated := by
  rw [addCell_eq_record]
  cases Event.ofCell? c with
  | none => rfl
  | some e => exact s.calculated_record e

@[simp] theorem Accumulator.calculated_extend (s : MachineAccumulator) (xs : List Float) :
    (s.extend xs).calculated = s.calculated := by
  induction xs generalizing s with
  | nil => rfl
  | cons x xs ih => exact ih (s.add x)

theorem Accumulator.isEmpty_iff (s : MachineAccumulator) :
    s.isEmpty = true ↔ s.count = 0 ∧ s.numbers = 0 := by
  rw [isEmpty, Bool.and_eq_true, beq_iff_eq, beq_iff_eq, ← UInt64.toNat_inj, ← UInt64.toNat_inj]
  rfl

/-- The accumulator agrees with a log in all that does not depend on rounding. -/
structure Reflects (s : MachineAccumulator) (log : List Event) : Prop where
  count : s.count = UInt64.ofNat (log.countP Event.isRow)
  numbers : s.numbers = UInt64.ofNat (log.countP Event.isNumber)
  error : s.error = log.findSome? Event.error?

namespace Reflects

variable {s t : MachineAccumulator} {log other : List Event}

theorem empty : Reflects Accumulator.empty [] := ⟨rfl, rfl, rfl⟩

theorem reset (s : MachineAccumulator) : Reflects s.reset [] := ⟨rfl, rfl, rfl⟩

theorem markCalculated (h : Reflects s log) : Reflects s.markCalculated log :=
  ⟨h.count, h.numbers, h.error⟩

theorem record (h : Reflects s log) (e : Event) : Reflects (s.record e) (log ++ [e]) := by
  have hcount : (s.record e).count = s.count + UInt64.ofNat ([e].countP Event.isRow) := by
    cases e with
    | number x => rfl
    | presence => rfl
    | error kind => exact (UInt64.add_zero s.count).symm
  have hnumbers : (s.record e).numbers =
      s.numbers + UInt64.ofNat ([e].countP Event.isNumber) := by
    cases e with
    | number x => rfl
    | presence => exact (UInt64.add_zero s.numbers).symm
    | error kind => exact (UInt64.add_zero s.numbers).symm
  have herror : (s.record e).error = s.error.or ([e].findSome? Event.error?) := by
    cases e with
    | number x => exact Option.or_none.symm
    | presence => exact Option.or_none.symm
    | error kind => rfl
  constructor
  · rw [hcount, h.count, List.countP_append, UInt64.ofNat_add]
  · rw [hnumbers, h.numbers, List.countP_append, UInt64.ofNat_add]
  · rw [herror, h.error, List.findSome?_append]

theorem addCell (h : Reflects s log) (c : Cell) :
    Reflects (s.addCell c) (log ++ (Event.ofCell? c).toList) := by
  rw [Accumulator.addCell_eq_record]
  cases Event.ofCell? c with
  | none => simpa using h
  | some e => exact h.record e

theorem extend (h : Reflects s log) (xs : List Float) :
    Reflects (s.extend xs) (log ++ xs.map .number) := by
  induction xs generalizing s log with
  | nil =>
    rw [List.map_nil, List.append_nil]
    exact h
  | cons x xs ih =>
    have hstep : Reflects (s.add x) (log ++ [.number x]) := h.record (.number x)
    have hrest := ih hstep
    rw [List.append_assoc] at hrest
    exact hrest

theorem merge (hs : Reflects s log) (ht : Reflects t other) :
    Reflects (s.merge t) (log ++ other) where
  count := by
    rw [Accumulator.count_merge, hs.count, ht.count, List.countP_append, UInt64.ofNat_add]
  numbers := by
    rw [Accumulator.numbers_merge, hs.numbers, ht.numbers, List.countP_append, UInt64.ofNat_add]
  error := by
    rw [Accumulator.error_merge, hs.error, ht.error, List.findSome?_append]

section

variable (h : Reflects s log) (hrows : log.countP Event.isRow < UInt64.size)

include h hrows

theorem toNat_count : s.count.toNat = log.countP Event.isRow := by
  rw [h.count, UInt64.toNat_ofNat_of_lt' hrows]

theorem toNat_numbers : s.numbers.toNat = log.countP Event.isNumber := by
  have hnumbers := Nat.lt_of_le_of_lt (Event.countP_isNumber_le log) hrows
  rw [h.numbers, UInt64.toNat_ofNat_of_lt' hnumbers]

theorem numbers_le_count : s.numbers ≤ s.count := by
  rw [UInt64.le_iff_toNat_le, h.toNat_numbers hrows, h.toNat_count hrows]
  exact Event.countP_isNumber_le log

theorem isEmpty_iff_count : s.isEmpty = true ↔ s.count = 0 := by
  rw [s.isEmpty_iff]
  refine and_iff_left_of_imp fun hcount ↦ ?_
  have hle := h.numbers_le_count hrows
  rw [hcount] at hle
  exact UInt64.le_zero_iff.mp hle

/-- An accumulator is empty as long as its log holds nothing but errors. -/
theorem isEmpty_iff : s.isEmpty = true ↔ ∀ e ∈ log, ¬e.isRow = true := by
  rw [h.isEmpty_iff_count hrows, ← UInt64.toNat_inj, h.toNat_count hrows, UInt64.toNat_zero,
    List.countP_eq_zero]

end

end Reflects

/-- The operations on an accumulator, the last one outermost. -/
inductive Run where
  | empty
  | ofCalculated
  | add (r : Run) (x : Float)
  | addCell (r : Run) (c : Cell)
  | addCount (r : Run)
  | addError (r : Run) (kind : ErrorKind)
  | extend (r : Run) (xs : List Float)
  | markCalculated (r : Run)
  | reset (r : Run)
  /-- Finished, and opened again. -/
  | reopen (r : Run)
  | merge (r other : Run)

namespace Run

def accumulator : Run → MachineAccumulator
  | empty => .empty
  | ofCalculated => .ofCalculated
  | add r x => r.accumulator.add x
  | addCell r c => r.accumulator.addCell c
  | addCount r => r.accumulator.addCount
  | addError r kind => r.accumulator.addError kind
  | extend r xs => r.accumulator.extend xs
  | markCalculated r => r.accumulator.markCalculated
  | reset r => r.accumulator.reset
  | reopen r => r.accumulator.finalize.reopen
  | merge r other => r.accumulator.merge other.accumulator

/-- The events since the last reset. -/
def log : Run → List Event
  | empty | ofCalculated | reset _ | reopen _ => []
  | add r x => r.log ++ [.number x]
  | addCell r c => r.log ++ (Event.ofCell? c).toList
  | addCount r => r.log ++ [.presence]
  | addError r kind => r.log ++ [.error kind]
  | extend r xs => r.log ++ xs.map .number
  | markCalculated r => r.log
  | merge r other => r.log ++ other.log

/-- Whether the item was ever marked as calculated; a reset leaves the mark. -/
def isCalculated : Run → Bool
  | empty => false
  | ofCalculated | markCalculated _ => true
  | add r _ | addCell r _ | addCount r | addError r _ | extend r _ | reset r | reopen r =>
    r.isCalculated
  | merge r other => r.isCalculated || other.isCalculated

theorem reflects_log (r : Run) : Reflects r.accumulator r.log := by
  induction r with
  | empty => exact .empty
  | ofCalculated => exact ⟨rfl, rfl, rfl⟩
  | add r x ih => exact ih.record (.number x)
  | addCell r c ih => exact ih.addCell c
  | addCount r ih => exact ih.record .presence
  | addError r kind ih => exact ih.record (.error kind)
  | extend r xs ih => exact ih.extend xs
  | markCalculated r ih => exact ih.markCalculated
  | reset r => exact .reset _
  | reopen r => exact .reset _
  | merge r other ih ihother => exact ih.merge ihother

theorem calculated_accumulator (r : Run) : r.accumulator.calculated = r.isCalculated := by
  induction r with
  | empty => rfl
  | ofCalculated => rfl
  | add r x ih => exact ih
  | addCell r c ih => rw [accumulator, Accumulator.calculated_addCell, ih, isCalculated]
  | addCount r ih => exact ih
  | addError r kind ih => exact ih
  | extend r xs ih => rw [accumulator, Accumulator.calculated_extend, ih, isCalculated]
  | markCalculated r => rfl
  | reset r ih => exact ih
  | reopen r ih => exact ih
  | merge r other ih ihother =>
    change (r.accumulator.calculated || other.accumulator.calculated) = _
    rw [ih, ihother, isCalculated]

end Run

end Worksheet.Pivot
