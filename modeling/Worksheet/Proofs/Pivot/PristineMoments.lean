import Worksheet.Proofs.Pivot.RecordedErrors

/-!
The moments of an accumulator before its first number.

Extremes, sum, product, mean and spread are those of an empty accumulator until a number is taken,
down to the last bit. Every operation keeps this, a merge too, since the moments of no numbers are
neutral; so it holds after every run whose log has no number (`pristine_accumulator`). An item with
rows but no numbers therefore shows a zero for the kinds that need no numbers
(`materialize_of_no_number`).
-/

set_option autoImplicit false
set_option relaxedAutoImplicit false

namespace Worksheet.Pivot

namespace Accumulator

/-- The moments are those of no numbers. -/
structure Pristine (s : MachineAccumulator) : Prop where
  min : s.min = (empty : MachineAccumulator).min
  max : s.max = (empty : MachineAccumulator).max
  sum : s.sum = (empty : MachineAccumulator).sum
  product : s.product = (empty : MachineAccumulator).product
  mean : s.mean = (empty : MachineAccumulator).mean
  spread : s.spread = (empty : MachineAccumulator).spread

variable {s t : MachineAccumulator}

namespace Pristine

theorem empty : (Accumulator.empty : MachineAccumulator).Pristine :=
  ⟨rfl, rfl, rfl, rfl, rfl, rfl⟩

theorem reset (s : MachineAccumulator) : s.reset.Pristine := ⟨rfl, rfl, rfl, rfl, rfl, rfl⟩

theorem markCalculated (h : s.Pristine) : s.markCalculated.Pristine :=
  ⟨h.min, h.max, h.sum, h.product, h.mean, h.spread⟩

theorem record (h : s.Pristine) {e : Event} (he : e.isNumber = false) : (s.record e).Pristine := by
  cases e with
  | number x => cases he
  | presence => exact ⟨h.min, h.max, h.sum, h.product, h.mean, h.spread⟩
  | error kind => exact ⟨h.min, h.max, h.sum, h.product, h.mean, h.spread⟩

theorem addCell (h : s.Pristine) {c : Cell} (hc : ∀ e ∈ Event.ofCell? c, e.isNumber = false) :
    (s.addCell c).Pristine := by
  rw [addCell_eq_record]
  cases hevent : Event.ofCell? c with
  | none => exact h
  | some e => exact h.record (hc e hevent)

/-- Without numbers on either side mean and spread do not move. -/
theorem merge (hs : s.Pristine) (ht : t.Pristine) (hnumbers : (s.merge t).numbers = 0) :
    (s.merge t).Pristine := by
  have hnone : Counter.toNat (s.numbers + t.numbers) = 0 := congrArg UInt64.toNat hnumbers
  constructor
  · change lowerFloat s.min t.min = _
    rw [hs.min, ht.min]
    rfl
  · change upperFloat s.max t.max = _
    rw [hs.max, ht.max]
    rfl
  · change s.sum + t.sum = _
    rw [hs.sum, ht.sum]
    rfl
  · change s.product * t.product = _
    rw [hs.product, ht.product]
    rfl
  · exact (s.mean_merge_of_no_number t hnone).trans hs.mean
  · exact (s.spread_merge_of_no_number t hnone).trans hs.spread

end Pristine

end Accumulator

namespace Kind

theorem neededNumbers_of_not_needsDivision {kind : Kind} (h : kind.needsDivision = false) :
    kind.neededNumbers = 0 := by
  cases kind <;> first | rfl | cases h

end Kind

namespace Summary

/-- Of no numbers the sum, the product and the extremes of an ordinary item are all zero. -/
theorem number_of_pristine (s : Summary) (hpristine : s.stats.Pristine)
    (hnumbers : s.stats.numbers = 0) (hcalculated : s.stats.calculated = false) {kind : Kind}
    (hdivides : kind.needsDivision = false) (hpresence : kind.isPresenceCount = false) :
    s.number kind = 0.0 := by
  have hextreme (x : Float) : s.extremeOrZero x = 0.0 := by
    rw [extremeOrZero, hcalculated, hnumbers]
    rfl
  have hproduct : s.stats.productOrZero = 0.0 := by
    rw [Accumulator.productOrZero, hnumbers]
    rfl
  have hsum : s.stats.sum = 0.0 := hpristine.sum
  cases kind with
  | max => exact hextreme _
  | min => exact hextreme _
  | product => exact hproduct
  | standard | data | blank | grand | sum => exact hsum
  | count | countA => cases hpresence
  | average | stdDev | stdDevP | var | varP => cases hdivides

end Summary

namespace Run

/-- Until the log has a number, the moments are those of no numbers. -/
theorem pristine_accumulator (r : Run) (h : ∀ e ∈ r.log, e.isNumber = false) :
    r.accumulator.Pristine := by
  induction r with
  | empty => exact .empty
  | ofCalculated => exact Accumulator.Pristine.empty.markCalculated
  | add r x =>
    have hnumber := h (.number x) (List.mem_append_right _ List.mem_cons_self)
    cases hnumber
  | addCell r c ih =>
    obtain ⟨hlog, hcell⟩ := List.forall_mem_append.mp h
    exact (ih hlog).addCell fun e he ↦ hcell e (Option.mem_toList.mpr he)
  | addCount r ih => exact (ih (List.forall_mem_append.mp h).1).record (e := .presence) rfl
  | addError r kind ih => exact (ih (List.forall_mem_append.mp h).1).record (e := .error kind) rfl
  | extend r xs ih =>
    obtain ⟨hlog, hnumbers⟩ := List.forall_mem_append.mp h
    cases xs with
    | nil => exact ih hlog
    | cons x xs => cases hnumbers (.number x) List.mem_cons_self
  | markCalculated r ih => exact (ih h).markCalculated
  | reset r => exact .reset _
  | reopen r => exact .reset _
  | merge r other ih ihother =>
    obtain ⟨hlog, hother⟩ := List.forall_mem_append.mp h
    refine (ih hlog).merge (ihother hother) ?_
    have hnone : (r.log ++ other.log).countP Event.isNumber = 0 :=
      List.countP_eq_zero.mpr fun e he ↦ Bool.eq_false_iff.mp (h e he)
    rw [(r.reflects_log.merge other.reflects_log).numbers, hnone]
    rfl

/-- As long as no count has wrapped around, a log without numbers shows in their count. -/
theorem no_number_iff (r : Run) (hrows : r.log.countP Event.isRow < UInt64.size) :
    r.accumulator.numbers = 0 ↔ ∀ e ∈ r.log, e.isNumber = false := by
  rw [← UInt64.toNat_inj, r.reflects_log.toNat_numbers hrows, UInt64.toNat_zero,
    List.countP_eq_zero]
  simp only [Bool.not_eq_true]

/-- Rows without numbers: a kind that neither divides nor counts shows a zero. -/
theorem materialize_of_no_number (r : Run) {base field row column : Kind}
    (hpristine : r.accumulator.Pristine) (hcount : 0 < r.accumulator.count)
    (hnumbers : r.accumulator.numbers = 0) (herror : r.accumulator.error = none)
    (hcalculated : r.accumulator.calculated = false)
    (hblank : Kind.resolve base field row column ≠ .blank)
    (hdivides : (Kind.resolve base field row column).needsDivision = false)
    (hpresence : (Kind.resolve base field row column).isPresenceCount = false) :
    r.accumulator.finalize.materialize base field row column = some (.number 0.0) := by
  have hvalue : r.accumulator.HasValue := by
    refine Or.inl (Bool.eq_false_iff.mpr fun hempty ↦ ?_)
    rw [(r.accumulator.isEmpty_iff.mp hempty).1] at hcount
    exact UInt64.lt_irrefl 0 hcount
  have hzero := r.accumulator.finalize.number_of_pristine hpristine hnumbers hcalculated hdivides
    hpresence
  have hcell : r.accumulator.finalize.cell (Kind.resolve base field row column) = .number 0.0 := by
    unfold Summary.cell
    rw [show r.accumulator.finalize.stats.error = none from herror,
      Kind.neededNumbers_of_not_needsDivision hdivides, if_neg (Nat.not_lt_zero _), hzero]
  rw [r.accumulator.finalize.materialize_of_not_blank hvalue hblank, hcell]

/-- As long as no count has wrapped around, the numbers are among the rows that were counted, so
that an accumulator is empty if no row was, and no moment has moved without a number. So an ordinary
item with rows but no numbers and no error shows a zero for sum, extremes and product. A reset, of
an open accumulator or of a finished one, leaves nothing but the mark of a calculated item. -/
theorem accumulator_invariant (r : Run) :
    (r.log.countP Event.isRow < UInt64.size →
      r.accumulator.numbers ≤ r.accumulator.count ∧
        (r.accumulator.isEmpty = true ↔ r.accumulator.count = 0) ∧
        (r.accumulator.numbers = 0 → r.accumulator.Pristine) ∧
        (r.accumulator.numbers = 0 → 0 < r.accumulator.count → r.accumulator.error = none →
          r.accumulator.calculated = false → ∀ base field row column : Kind,
            Kind.resolve base field row column ∈ [.sum, .max, .min, .product] →
              r.accumulator.finalize.materialize base field row column = some (.number 0.0))) ∧
      (reset r).accumulator = { empty.accumulator with calculated := r.accumulator.calculated } ∧
      (reopen r).accumulator =
        { empty.accumulator with calculated := r.accumulator.calculated } := by
  refine ⟨fun hrows ↦ ?_, rfl, rfl⟩
  have hpristine (hnumbers : r.accumulator.numbers = 0) : r.accumulator.Pristine :=
    r.pristine_accumulator ((r.no_number_iff hrows).mp hnumbers)
  refine ⟨r.reflects_log.numbers_le_count hrows, r.reflects_log.isEmpty_iff_count hrows,
    hpristine, ?_⟩
  intro hnumbers hcount herror hcalculated base field row column hkind
  refine r.materialize_of_no_number (hpristine hnumbers) hcount hnumbers herror hcalculated
    ?_ ?_ ?_
  all_goals
    generalize Kind.resolve base field row column = kind at hkind
    revert kind
    decide

/-- A text and a presence in two parts, the second one reopened after an error and a number. -/
def rowsWithoutNumbers : Run :=
  merge (addCell empty (.text "x")) (addCount (reopen (add (addError empty .value) 2.5)))

theorem materialize_rowsWithoutNumbers :
    (rowsWithoutNumbers.log.countP Event.isRow < UInt64.size ∧
        rowsWithoutNumbers.accumulator.numbers = 0 ∧ 0 < rowsWithoutNumbers.accumulator.count ∧
        rowsWithoutNumbers.accumulator.error = none ∧
        rowsWithoutNumbers.accumulator.calculated = false ∧
        Kind.resolve .sum .average .max .grand ∈ [Kind.sum, .max, .min, .product]) ∧
      rowsWithoutNumbers.accumulator.finalize.materialize .sum .average .max .grand =
        some (.number 0.0) := by
  have hrows : rowsWithoutNumbers.log.countP Event.isRow < UInt64.size := by decide
  have hcount : 0 < rowsWithoutNumbers.accumulator.count := by decide
  have hkind : Kind.resolve .sum .average .max .grand ∈ [Kind.sum, .max, .min, .product] := by
    decide
  refine ⟨⟨hrows, rfl, hcount, rfl, rfl, hkind⟩, ?_⟩
  exact (rowsWithoutNumbers.accumulator_invariant.1 hrows).2.2.2 rfl hcount rfl rfl _ _ _ _ hkind

end Run

end Worksheet.Pivot
