import Worksheet.Proofs.Pivot.Runs

/-!
The cell of an accumulator that has recorded an error.

An accumulator has a value when it is not empty or is calculated (`HasValue`). A kind that
aggregates numbers then shows the first error recorded, with no message; without a value the cell is
left out, error or not (`materialize_error_log`). Errors count no row, so that an error alone is no
value (`hasValue_iff`).
-/

set_option autoImplicit false
set_option relaxedAutoImplicit false

namespace Worksheet.Pivot

/-- Something was counted, or the item is calculated. -/
def Accumulator.HasValue (s : MachineAccumulator) : Prop :=
  s.isEmpty = false ∨ s.calculated = true

theorem Accumulator.not_hasValue_iff (s : MachineAccumulator) :
    ¬s.HasValue ↔ s.isEmpty = true ∧ s.calculated = false := by
  rw [HasValue, not_or, Bool.not_eq_false, Bool.not_eq_true]

namespace Summary

variable {base field row column : Kind}

theorem cell_of_error (s : Summary) {kind : Kind} {e : ErrorKind} (herror : s.stats.error = some e)
    (hpresence : kind.isPresenceCount = false) : s.cell kind = .error ⟨e, none⟩ := by
  rw [cell, herror, hpresence]

theorem materialize_of_not_blank (s : Summary) (hvalue : s.stats.HasValue)
    (hblank : Kind.resolve base field row column ≠ .blank) :
    s.materialize base field row column = some (s.cell (Kind.resolve base field row column)) := by
  have hguard : ¬(s.stats.isEmpty && !s.stats.calculated) = true := by
    rcases hvalue with h | h
    · simp [h]
    · simp [h]
  rw [materialize, if_neg hguard]
  cases hkind : Kind.resolve base field row column with
  | blank => exact absurd hkind hblank
  | _ => rfl

theorem materialize_of_not_hasValue (s : Summary) (base field row column : Kind)
    (h : ¬s.stats.HasValue) : s.materialize base field row column = none := by
  obtain ⟨hempty, hcalculated⟩ := s.stats.not_hasValue_iff.mp h
  exact s.materialize_of_isEmpty base field row column hempty hcalculated

end Summary

namespace Run

/-- A row since the last reset is a value, unless as many rows as there are words were counted. -/
theorem hasValue_iff (r : Run) (hrows : r.log.countP Event.isRow < UInt64.size) :
    r.accumulator.HasValue ↔ r.isCalculated = true ∨ ∃ e ∈ r.log, e.isRow = true := by
  rw [Accumulator.HasValue, calculated_accumulator, ← Bool.not_eq_true r.accumulator.isEmpty,
    r.reflects_log.isEmpty_iff hrows, or_comm]
  simp only [Classical.not_forall, Classical.not_not, exists_prop]

/-- The first error of the log is kept. A kind that is no presence count shows it exactly if the
accumulator has a value, and is left out otherwise. -/
theorem materialize_error_log (r : Run) (base field row column : Kind) (kind : ErrorKind)
    (herror : r.log.findSome? Event.error? = some kind)
    (hblank : Kind.resolve base field row column ≠ .blank)
    (hpresence : (Kind.resolve base field row column).isPresenceCount = false) :
    r.accumulator.error = some kind ∧
      (r.accumulator.finalize.materialize base field row column = some (.error ⟨kind, none⟩) ↔
        r.accumulator.isEmpty = false ∨ r.accumulator.calculated = true) ∧
      (r.accumulator.finalize.materialize base field row column = none ↔
        r.accumulator.isEmpty = true ∧ r.accumulator.calculated = false) ∧
      (r.log.countP Event.isRow < UInt64.size →
        (r.accumulator.isEmpty = false ∨ r.accumulator.calculated = true ↔
          r.isCalculated = true ∨ ∃ e ∈ r.log, e.isRow = true)) := by
  have hfirst : r.accumulator.error = some kind := r.reflects_log.error.trans herror
  by_cases hvalue : r.accumulator.HasValue
  · have hcell : r.accumulator.finalize.materialize base field row column =
        some (.error ⟨kind, none⟩) := by
      rw [r.accumulator.finalize.materialize_of_not_blank hvalue hblank,
        r.accumulator.finalize.cell_of_error hfirst hpresence]
    rw [hcell]
    refine ⟨hfirst, iff_of_true rfl hvalue, iff_of_false (Option.some_ne_none _) ?_, r.hasValue_iff⟩
    rw [← r.accumulator.not_hasValue_iff]
    exact not_not_intro hvalue
  · rw [r.accumulator.finalize.materialize_of_not_hasValue base field row column hvalue]
    exact ⟨hfirst, iff_of_false (Option.some_ne_none _).symm hvalue,
      iff_of_true rfl (r.accumulator.not_hasValue_iff.mp hvalue), r.hasValue_iff⟩

/-- Two errors before a part with a row and an error of its own: the first of the three shows. -/
theorem materialize_merged_errors :
    ((merge (addError (addError empty .notAvailable) .value)
        (addCount (addError empty .number))).log.findSome? Event.error? = some .notAvailable ∧
      Kind.resolve .sum .standard .average .average ≠ .blank ∧
      (Kind.resolve .sum .standard .average .average).isPresenceCount = false) ∧
    (merge (addError (addError empty .notAvailable) .value)
        (addCount (addError empty .number))).accumulator.finalize.materialize
        .sum .standard .average .average = some (.error ⟨.notAvailable, none⟩) := by
  have hblank : Kind.resolve .sum .standard .average .average ≠ .blank := by decide
  have hpresence : (Kind.resolve .sum .standard .average .average).isPresenceCount = false := by
    decide
  refine ⟨⟨rfl, hblank, hpresence⟩, ?_⟩
  exact (materialize_error_log _ _ _ _ _ .notAvailable rfl hblank hpresence).2.1.mpr
    (.inl rfl)

/-- An error that stands alone is recorded and yet not shown. -/
theorem materialize_lone_error :
    (addError empty .notAvailable).accumulator.error = some .notAvailable ∧
      Kind.resolve .sum .standard .standard .standard = .sum ∧
      (addError empty .notAvailable).accumulator.finalize.materialize
        .sum .standard .standard .standard = none :=
  ⟨rfl, rfl, rfl⟩

end Run

end Worksheet.Pivot
