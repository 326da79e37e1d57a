import Worksheet.Proofs.Database.MatchedCells

/-!
Aggregates of a selection without a number.

A selection lacks numbers in three ways: no record is selected, only blanks are selected, or there
are other cells and none of them has a number (`HasNoNumber`). The extremes and the product are the
positive zero in all three. The sum is it in the first two, where nothing is left to reduce; in the
third it adds up no numbers, and a sum starts from the negative zero (`signedZero_of_no_number`).
-/

set_option autoImplicit false
set_option relaxedAutoImplicit false

namespace Worksheet.Database

open Worksheet.Criteria

open Deviation (filled filterMap_filled)

/-! ### Selections without a number -/

/-- The answer of a query has no number in it. -/
inductive HasNoNumber : Except QueryFault (Option (List Cell)) → Prop where
  | noRecord : HasNoNumber (.ok none)
  | onlyBlanks : HasNoNumber (.error .nothingSurvives)
  | noEntry (values : List Cell) (hnone : values.filterMap Cell.entry? = []) :
      HasNoNumber (.ok (some values))

theorem filled_eq_nil_iff (cells : List Cell) : filled cells = [] ↔ ∀ c ∈ cells, c = .empty := by
  simp [filled, Cell.isEmpty_iff]

theorem run_of_empty_field (m : Matcher) (database : Block) {field : Cell}
    (h : field.AmountsTo .empty) (criteria : Block) :
    Query.run m {} database field criteria = .error .fieldEmpty := by
  apply run_eq_error
  unfold Field.resolve
  rw [h.single_eq]
  rfl

/-- A query that answers with values has one at least. -/
theorem run_ne_some_nil (m : Matcher) (options : QueryOptions) (database : Block) (field : Cell)
    (criteria : Block) : Query.run m options database field criteria ≠ .ok (some []) := by
  intro hrun
  exact ((run_eq_ok_iff ..).mp hrun).ne_some_nil rfl

/-! ### The zeros -/

/-- The sum of no numbers is where it starts; the other reductions make a zero of their own. -/
theorem Aggregate.reduce_of_no_number {a : Aggregate}
    (ha : a ∈ [Aggregate.sum, .max, .min, .product]) (emptyField : Bool) {values : List Cell}
    (hnone : values.filterMap Cell.entry? = []) :
    a.reduce emptyField values = if a = .sum then -0.0 else 0.0 := by
  simp only [List.mem_cons, List.not_mem_nil, or_false] at ha
  rcases ha with rfl | rfl | rfl | rfl <;>
    · simp only [reduce, hnone]
      rfl

section

variable (p : Prop) [Decidable p]

theorem toBits_eq_zero_iff : (if p then -0.0 else 0.0 : Float).toBits = 0 ↔ ¬ p := by
  by_cases hp : p
  · rw [if_pos hp]
    exact iff_of_false (by decide +kernel) (not_not_intro hp)
  · rw [if_neg hp]
    exact iff_of_true (by decide +kernel) hp

theorem toBits_eq_negative_iff :
    (if p then -0.0 else 0.0 : Float).toBits = 0x8000000000000000 ↔ p := by
  by_cases hp : p
  · rw [if_pos hp]
    exact iff_of_true (by decide +kernel) hp
  · rw [if_neg hp]
    exact iff_of_false (by decide +kernel) hp

end

section

variable {a : Aggregate} (ha : a ∈ [Aggregate.sum, .max, .min, .product]) {m : Matcher}
  {database field criteria : Argument}
  (hargs : [database, field, criteria].findSome? Argument.error? = none)
  (hnone : HasNoNumber (Query.run m {} database.block field.value criteria.block))

include hnone in
theorem fieldIsEmpty_of_no_number : fieldIsEmpty [database, field, criteria] = false := by
  rw [← Bool.not_eq_true, fieldIsEmpty_iff]
  intro hempty
  rw [run_of_empty_field m database.block hempty criteria.block] at hnone
  cases hnone

include ha hargs hnone in
/-- Without a number the value is a zero, and only a sum that has values to add up is the negative
one. -/
theorem eval_eq_signedZero :
    ∃ values, cellsOfAnswer (answer m {} [database, field, criteria]) = .ok values ∧
      values.filterMap Cell.entry? = [] ∧
      a.function.eval m [database, field, criteria] =
        .ok (.number (if a = .sum ∧ values ≠ [] then -0.0 else 0.0)) := by
  have hoptions : a.options = {} := by
    simp only [List.mem_cons, List.not_mem_nil, or_false] at ha
    rcases ha with rfl | rfl | rfl | rfl <;> rfl
  have hne := run_ne_some_nil m {} database.block field.value criteria.block
  rw [a.eval_eq_ofAnswer, hoptions, answer_of_no_error {} hargs]
  generalize Query.run m {} database.block field.value criteria.block = r at hnone hne
  cases hnone with
  | noRecord => exact ⟨[], rfl, rfl, by simp [Except.mapError, Aggregate.ofAnswer]⟩
  | onlyBlanks =>
    exact ⟨[], rfl, rfl, by simp [Except.mapError, Aggregate.ofAnswer, QueryFault.error]⟩
  | noEntry values hentries =>
    refine ⟨values, rfl, hentries, ?_⟩
    -- An answer has a value, so this is the case that reaches the reduction.
    have hsome : values ≠ [] := by
      rintro rfl
      exact hne rfl
    simp [Except.mapError, Aggregate.ofAnswer, Aggregate.reduce_of_no_number ha _ hentries, hsome]

end

/-- Without a number among the cells that the call matches, the extremes and the product are the
positive zero. So is the sum if all of these cells are blank, and otherwise it is the negative
zero. -/
theorem signedZero_of_no_number {a : Aggregate} (ha : a ∈ [Aggregate.sum, .max, .min, .product])
    (m : Matcher) (database field criteria : Argument)
    (hargs : [database, field, criteria].findSome? Argument.error? = none)
    (hnone : HasNoNumber (Query.run m {} database.block field.value criteria.block)) :
    ∃ cells x, MatchesCells m [database, field, criteria] cells ∧
      cells.filterMap Cell.entry? = [] ∧
      a.function.call m [database, field, criteria] = .number x ∧
      (x.toBits = 0 ↔ a ≠ .sum ∨ ∀ c ∈ cells, c = .empty) ∧
      (x.toBits = 0x8000000000000000 ↔ a = .sum ∧ ∃ c ∈ cells, c ≠ .empty) := by
  obtain ⟨values, hvalues, hentries, heval⟩ := eval_eq_signedZero ha hargs hnone
  rw [cellsOfAnswer_skip m (fieldIsEmpty_of_no_number hnone)] at hvalues
  obtain ⟨cells, hcells, rfl⟩ := (map_eq_ok_iff _ _ _).mp hvalues
  rw [filterMap_filled Cell.entry? rfl] at hentries
  refine ⟨cells, _, (matchedCells_eq_ok_iff ..).mp hcells, hentries,
    call_eq_of_eval_eq_ok rfl heval, ?_, ?_⟩
  · rw [toBits_eq_zero_iff, not_and_or, not_not, filled_eq_nil_iff]
  · rw [toBits_eq_negative_iff, Ne, filled_eq_nil_iff]
    simp only [not_forall, exists_prop, ne_eq]

/-- Truth values are cells and have no number, so their sum is the negative zero. -/
theorem sum_of_truth_values :
    HasNoNumber (Query.run (Matcher.standard {}) {}
        (.borrowed [[.text "Tree", .text "Evergreen"], [.text "Apple", .boolean false],
          [.text "Pear"], [.text "Fir", .boolean true]]) (.text "Evergreen")
        (.borrowed [[.text "Tree"]])) ∧
      ∃ x, Aggregate.sum.function.call (Matcher.standard {})
          [.range (.borrowed [[.text "Tree", .text "Evergreen"], [.text "Apple", .boolean false],
              [.text "Pear"], [.text "Fir", .boolean true]]),
            .scalar (.text "Evergreen"), .range (.borrowed [[.text "Tree"]])] = .number x ∧
        x.toBits = 0x8000000000000000 := by
  have hcells : matchedCells (Matcher.standard {})
      [.range (.borrowed [[.text "Tree", .text "Evergreen"], [.text "Apple", .boolean false],
          [.text "Pear"], [.text "Fir", .boolean true]]),
        .scalar (.text "Evergreen"), .range (.borrowed [[.text "Tree"]])] =
      .ok [.boolean false, .empty, .boolean true] := rfl
  obtain ⟨cells, x, hmatches, -, hcall, -, hnegative⟩ :=
    signedZero_of_no_number List.mem_cons_self (Matcher.standard {})
      (.range (.borrowed [[.text "Tree", .text "Evergreen"], [.text "Apple", .boolean false],
        [.text "Pear"], [.text "Fir", .boolean true]]))
      (.scalar (.text "Evergreen")) (.range (.borrowed [[.text "Tree"]])) rfl
      (.noEntry [.boolean false, .boolean true] rfl)
  cases hcells.symm.trans ((matchedCells_eq_ok_iff ..).mpr hmatches)
  exact ⟨.noEntry [.boolean false, .boolean true] rfl, x, hcall,
    hnegative.mpr ⟨rfl, .boolean false, List.mem_cons_self, nofun⟩⟩

/-- The four reductions of nothing are not one zero: the sum of a truth value is not the positive
one. -/
theorem not_positive_zero_of_truth_value :
    ¬ ∀ a ∈ [Aggregate.sum, .max, .min, .product],
      ∀ (m : Matcher) (database field criteria : Argument),
        [database, field, criteria].findSome? Argument.error? = none →
        HasNoNumber (Query.run m {} database.block field.value criteria.block) →
          ∃ x, a.function.call m [database, field, criteria] = .number x ∧ x.toBits = 0 := by
  intro h
  have hnone : HasNoNumber (Query.run (Matcher.standard {}) {}
      (.borrowed [[.text "A"], [.boolean true]]) (.text "A") (.borrowed [[.text "A"]])) :=
    .noEntry [.boolean true] rfl
  obtain ⟨x, hcall, hbits⟩ := h .sum List.mem_cons_self (Matcher.standard {})
    (.scalar (.array [[.text "A"], [.boolean true]])) (.scalar (.text "A"))
    (.scalar (.array [[.text "A"]])) rfl hnone
  have hvalue : Aggregate.sum.function.call (Matcher.standard {})
      [.scalar (.array [[.text "A"], [.boolean true]]), .scalar (.text "A"),
        .scalar (.array [[.text "A"]])] = .number (-0.0) := rfl
  cases hvalue.symm.trans hcall
  revert hbits
  decide +kernel

end Worksheet.Database
