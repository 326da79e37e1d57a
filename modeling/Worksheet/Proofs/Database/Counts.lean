import Worksheet.Proofs.Block
import Worksheet.Proofs.Database.MatchedCells

/-!
The two counts, and the functions that a count decides.

Both counts go through the cells that the call matches, so they fail together. They part at an empty
field: one of them then counts records and not numbers (`counts_agree`). With any other field the
count of filled cells decides whether there is a single record (`singleRecord_of_countA`), and the
count of numbers whether there is a mean (`average_of_count`). The counts are compared as natural
numbers, before they become doubles (`countedNumbers`, `countedFilled`).
-/

set_option autoImplicit false
set_option relaxedAutoImplicit false

namespace Worksheet.Database

open Worksheet.Criteria HeaderIndex

open Deviation (filled filterMap_filled)

/-! ### Empty fields -/

/-- The ways in which a field is left empty. -/
inductive IsEmptyField : Argument → Prop where
  | scalar (c : Cell) (hc : c.AmountsTo .empty) : IsEmptyField (.scalar c)
  | noCells (b : Block) (hwidth : b.width = 0) : IsEmptyField (.range b)
  | oneCell (b : Block) (c : Cell) (honly : b.only? = some c) (hc : c.AmountsTo .empty) :
      IsEmptyField (.range b)

theorem value_range_amountsTo_empty_iff (b : Block) :
    (Argument.range b).value.AmountsTo .empty ↔
      b.width = 0 ∨ ∃ c, b.only? = some c ∧ c.AmountsTo .empty := by
  simp only [← Cell.single_eq_ok_iff]
  change (b.only?.getD (.array b.toRows)).single = _ ↔ _
  cases honly : b.only? with
  | some c =>
    have hwidth : b.width ≠ 0 := by
      intro hzero
      unfold Block.only? at honly
      rw [if_neg (by omega)] at honly
      cases honly
    simp [hwidth]
  | none =>
    have hone : ¬ (b.height = 1 ∧ b.width = 1) := by
      intro hone
      unfold Block.only? at honly
      rw [if_pos hone] at honly
      cases honly
    rw [Option.getD_none, b.single_toRows, b.single_array, if_neg hone]
    by_cases hwidth : b.width = 0
    · simp [hwidth]
    · simp [hwidth]

theorem isEmptyField_iff (database field criteria : Argument) :
    IsEmptyField field ↔ fieldIsEmpty [database, field, criteria] = true := by
  rw [fieldIsEmpty_iff]
  cases field with
  | scalar c =>
    refine ⟨fun h ↦ ?_, IsEmptyField.scalar c⟩
    cases h with
    | scalar _ hc => exact hc
  | range b =>
    rw [value_range_amountsTo_empty_iff]
    constructor
    · intro h
      cases h with
      | noCells _ hwidth => exact Or.inl hwidth
      | oneCell _ c honly hc => exact Or.inr ⟨c, honly, hc⟩
    · rintro (hwidth | ⟨c, honly, hc⟩)
      · exact .noCells b hwidth
      · exact .oneCell b c honly hc

theorem fieldIsEmpty_of_not_isEmptyField {args : List Argument}
    (hfield : ∀ database field criteria, args = [database, field, criteria] →
      ¬ IsEmptyField field) : fieldIsEmpty args = false := by
  match args with
  | [database, field, criteria] =>
    rw [← Bool.not_eq_true, ← isEmptyField_iff]
    exact hfield database field criteria rfl
  | [] | [_] | [_, _] | _ :: _ :: _ :: _ :: _ => rfl

/-! ### The counts before they become doubles -/

section

variable (m : Matcher) (args : List Argument)

/-- The number of numbers that a call matches, or of records if its field is empty. -/
def countedNumbers : Except CellError Nat :=
  (matchedCells m args).map (Aggregate.countNumbers (fieldIsEmpty args))

/-- The number of filled cells that a call matches. -/
def countedFilled : Except CellError Nat := (matchedCells m args).map Aggregate.countFilled

theorem eval_count :
    Aggregate.count.function.eval m args =
      (countedNumbers m args).map fun n ↦ .number (Float.ofNat n) := by
  have hzero : Aggregate.count.reduce (fieldIsEmpty args) [] = 0.0 := by
    cases fieldIsEmpty args <;> rfl
  rw [Aggregate.eval_eq_map m args hzero, countedNumbers, matchedCells]
  cases cellsOfAnswer (answer m Aggregate.count.options args) <;> rfl

theorem eval_countA :
    Aggregate.countA.function.eval m args =
      (countedFilled m args).map fun n ↦ .number (Float.ofNat n) := by
  have hzero : Aggregate.countA.reduce (fieldIsEmpty args) [] = 0.0 := rfl
  rw [Aggregate.eval_eq_map m args hzero, countedFilled, matchedCells]
  change (cellsOfAnswer (answer m Aggregate.count.options args)).map _ = _
  cases cellsOfAnswer (answer m Aggregate.count.options args) <;> rfl

/-- With a field that is not empty, a function that passes over blanks meets the cells that are
counted as filled. -/
theorem countedFilled_eq_map (h : fieldIsEmpty args = false) :
    countedFilled m args = (cellsOfAnswer (answer m {} args)).map List.length := by
  rw [cellsOfAnswer_skip m h, countedFilled]
  cases matchedCells m args <;> rfl

theorem countedNumbers_eq_map (h : fieldIsEmpty args = false) :
    countedNumbers m args =
      (cellsOfAnswer (answer m {} args)).map fun cells ↦
        (cells.filterMap Cell.entry?).length := by
  rw [cellsOfAnswer_skip m h, countedNumbers, h]
  cases matchedCells m args with
  | error e => rfl
  | ok cells =>
    change Except.ok (cells.filterMap Cell.entry?).length =
      Except.ok ((filled cells).filterMap Cell.entry?).length
    rw [filterMap_filled Cell.entry? rfl]

end

/-! ### The two counts -/

/-- A blank is no number, so there are no more numbers than filled cells. -/
theorem countNumbers_le_countFilled (cells : List Cell) :
    Aggregate.countNumbers false cells ≤ Aggregate.countFilled cells := by
  change (cells.filterMap Cell.entry?).length ≤ (filled cells).length
  rw [← filterMap_filled Cell.entry? rfl]
  exact List.length_filterMap_le _ _

/-- With an empty field a call matches one cell for each selected record, the one under the first
criteria header. -/
theorem records_of_empty_field {m : Matcher} {database field criteria : Argument}
    (hargs : [database, field, criteria].findSome? Argument.error? = none)
    (hempty : IsEmptyField field) {cells : List Cell}
    (h : MatchesCells m [database, field, criteria] cells) :
    ∃ records : List Nat, records.Pairwise (· < ·) ∧
      (∀ record, record ∈ records ↔ IsSelected m database.block criteria.block record) ∧
      cells = records.map (valueUnder database.block (headerText criteria.block 0)) := by
  have hblank := (fieldIsEmpty_iff database field criteria).mp
    ((isEmptyField_iff database field criteria).mp hempty)
  cases h with
  | divisionArgument _ _ _ e hother _ => cases hargs.symm.trans hother
  | divisionField _ _ _ e _ hother _ => cases hblank.unique hother
  | noRecord _ _ _ _ _ _ hnone =>
    exact ⟨[], .nil, fun record ↦ iff_of_false List.not_mem_nil (hnone record), rfl⟩
  | selected _ _ _ _ header hasks _ records hsorted hrecords =>
    obtain ⟨c, hc, hheader⟩ := hasks
    cases hblank.unique hc
    cases hheader with
    | ordinal _ x column hordinal => cases hordinal
    | firstCriteriaHeader _ _ => exact ⟨records, hsorted, hrecords, rfl⟩

/-- Two counts of a call count the same cells. -/
theorem exists_cells_of_counts {m : Matcher} {args : List Argument} {n k : Nat}
    (hn : countedNumbers m args = .ok n) (hk : countedFilled m args = .ok k) :
    ∃ cells, matchedCells m args = .ok cells ∧
      Aggregate.countNumbers (fieldIsEmpty args) cells = n ∧ Aggregate.countFilled cells = k := by
  obtain ⟨cells, hcells, hnumbers⟩ := (map_eq_ok_iff _ _ _).mp hn
  rw [countedFilled, hcells] at hk
  cases hk
  exact ⟨cells, hcells, hnumbers, rfl⟩

/-- What the two counts of a call owe each other. -/
structure CountsAgree (m : Matcher) (args : List Argument) : Prop where
  fail_together : ∀ e, Aggregate.count.function.eval m args = .error e ↔
    Aggregate.countA.function.eval m args = .error e
  numbers : Aggregate.count.function.eval m args =
    (countedNumbers m args).map fun n ↦ .number (Float.ofNat n)
  filled : Aggregate.countA.function.eval m args =
    (countedFilled m args).map fun n ↦ .number (Float.ofNat n)
  of_field : ∀ database field criteria n k, args = [database, field, criteria] →
    ¬ IsEmptyField field → countedNumbers m args = .ok n → countedFilled m args = .ok k → n ≤ k
  of_empty_field : ∀ database field criteria n k, args = [database, field, criteria] →
    args.findSome? Argument.error? = none → IsEmptyField field →
    countedNumbers m args = .ok n → countedFilled m args = .ok k →
      k ≤ n ∧ ∃ records : List Nat, records.Pairwise (· < ·) ∧
        (∀ record, record ∈ records ↔ IsSelected m database.block criteria.block record) ∧
        n = records.length ∧
        k = (records.filter fun record ↦
          !(valueUnder database.block (headerText criteria.block 0) record).isEmpty).length

/-- The counts fail together. With an empty field the count of numbers is the number of selected
records, and the count of filled cells is the smaller one; with any other field the count of
numbers is. -/
theorem counts_agree (m : Matcher) (args : List Argument) : CountsAgree m args where
  fail_together e := by
    rw [eval_count, eval_countA, map_eq_error_iff, map_eq_error_iff, countedNumbers, countedFilled,
      map_eq_error_iff, map_eq_error_iff]
  numbers := eval_count m args
  filled := eval_countA m args
  of_field database field criteria n k hargs hfield hn hk := by
    obtain ⟨cells, -, rfl, rfl⟩ := exists_cells_of_counts hn hk
    have hempty : fieldIsEmpty args = false := by
      refine fieldIsEmpty_of_not_isEmptyField fun _ _ _ hsame ↦ ?_
      cases hargs.symm.trans hsame
      exact hfield
    rw [hempty]
    exact countNumbers_le_countFilled cells
  of_empty_field database field criteria n k hargs herror hfield hn hk := by
    obtain ⟨cells, hcells, rfl, rfl⟩ := exists_cells_of_counts hn hk
    subst hargs
    have hmatches := (matchedCells_eq_ok_iff m _ cells).mp hcells
    obtain ⟨records, hsorted, hrecords, rfl⟩ := records_of_empty_field herror hfield hmatches
    rw [(isEmptyField_iff database field criteria).mp hfield]
    refine ⟨List.length_filter_le _ _, records, hsorted, hrecords, List.length_map _, ?_⟩
    rw [Aggregate.countFilled, List.filter_map, List.length_map]
    rfl

/-- The field is an empty cell, so the column is the one under the only criteria header. A tree
without an age and one with words for an age are records, and the former is no filled cell. -/
theorem counts_agree_of_empty_field :
    IsEmptyField (.scalar .empty) ∧
      CountsAgree (Matcher.standard {})
        [.range (.owned [[.text "Tree", .text "Age"], [.text "Apple", .int 3], [.text "Pear"],
          [.text "Fig", .text "old"]]), .scalar .empty, .range (.owned [[.text "Age"]])] ∧
      countedNumbers (Matcher.standard {})
          [.range (.owned [[.text "Tree", .text "Age"], [.text "Apple", .int 3], [.text "Pear"],
            [.text "Fig", .text "old"]]), .scalar .empty, .range (.owned [[.text "Age"]])] = .ok 3 ∧
      countedFilled (Matcher.standard {})
          [.range (.owned [[.text "Tree", .text "Age"], [.text "Apple", .int 3], [.text "Pear"],
            [.text "Fig", .text "old"]]), .scalar .empty, .range (.owned [[.text "Age"]])] =
        .ok 2 :=
  ⟨.scalar _ (.itself _ nofun), counts_agree _ _, rfl, rfl⟩

/-! ### The single record -/

namespace SingleRecord

variable (values : List Cell)

theorem ofValues_eq_ok_iff (value : Cell) : ofValues values = .ok value ↔ values = [value] := by
  match values with
  | [] => simp [ofValues]
  | [other] => simp [ofValues]
  | _ :: _ :: _ => simp [ofValues]

theorem exists_ofValues_eq_ok_iff : (∃ value, ofValues values = .ok value) ↔ values.length = 1 := by
  simp only [ofValues_eq_ok_iff, List.length_eq_one_iff]

theorem ofValues_number_iff :
    (∃ message, ofValues values = .error ⟨.number, message⟩) ↔ 2 ≤ values.length := by
  match values with
  | [] => simp [ofValues, EvalFault.error]
  | [_] => simp [ofValues]
  | _ :: _ :: _ => simp [ofValues, EvalFault.error]

theorem ofValues_value_iff :
    (∃ message, ofValues values = .error ⟨.value, message⟩) ↔ values.length = 0 := by
  match values with
  | [] => simp [ofValues, EvalFault.error]
  | [_] => simp [ofValues]
  | _ :: _ :: _ => simp [ofValues, EvalFault.error]

end SingleRecord

/-- The count of filled cells decides the look-up of a single record. Both fail with one error, or
cells are counted: one is the answer as it stands, two or more are too many, and with none there is
no record. -/
theorem singleRecord_of_countA (m : Matcher) (args : List Argument)
    (hfield : ∀ database field criteria, args = [database, field, criteria] →
      ¬ IsEmptyField field) :
    (∀ e, Aggregate.countA.function.eval m args = .error e →
        singleRecordFunction.eval m args = .error e) ∧
      Aggregate.countA.function.eval m args =
        (countedFilled m args).map (fun k ↦ .number (Float.ofNat k)) ∧
      ∀ k, countedFilled m args = .ok k →
        ((∃ value, singleRecordFunction.eval m args = .ok value) ↔ k = 1) ∧
        ((∃ message, singleRecordFunction.eval m args = .error ⟨.number, message⟩) ↔ 2 ≤ k) ∧
        ((∃ message, singleRecordFunction.eval m args = .error ⟨.value, message⟩) ↔ k = 0) ∧
        ∃ cells, MatchesCells m args cells ∧ (filled cells).length = k ∧
          ∀ value, singleRecordFunction.eval m args = .ok value ↔ filled cells = [value] := by
  have hempty := fieldIsEmpty_of_not_isEmptyField hfield
  have hcounted := countedFilled_eq_map m args hempty
  refine ⟨fun e he ↦ ?_, eval_countA m args, fun k hk ↦ ?_⟩
  · rw [eval_countA, map_eq_error_iff, hcounted, map_eq_error_iff] at he
    rw [SingleRecord.eval_eq_bind, he]
    rfl
  · obtain ⟨cells, hcells, rfl⟩ := (map_eq_ok_iff _ _ _).mp hk
    have heval : singleRecordFunction.eval m args = SingleRecord.ofValues (filled cells) := by
      rw [SingleRecord.eval_eq_bind, cellsOfAnswer_skip m hempty, hcells]
      rfl
    rw [heval]
    have hmatches := (matchedCells_eq_ok_iff m args cells).mp hcells
    exact ⟨SingleRecord.exists_ofValues_eq_ok_iff _, SingleRecord.ofValues_number_iff _,
      SingleRecord.ofValues_value_iff _, cells, hmatches, rfl, SingleRecord.ofValues_eq_ok_iff _⟩

/-- The age of one tree is missing and that of the other is an error, which is the answer. -/
theorem singleRecord_of_lone_error :
    (∀ database field criteria,
        [.range (.owned [[.text "Tree", .text "Age"], [.text "Apple"],
            [.text "Pear", .error ⟨.notAvailable, some "late"⟩]]),
          .scalar (.text "Age"), .range (.owned [[.text "Tree"]])] = [database, field, criteria] →
        ¬ IsEmptyField field) ∧
      singleRecordFunction.eval (Matcher.standard {})
        [.range (.owned [[.text "Tree", .text "Age"], [.text "Apple"],
            [.text "Pear", .error ⟨.notAvailable, some "late"⟩]]),
          .scalar (.text "Age"), .range (.owned [[.text "Tree"]])] =
        .ok (.error ⟨.notAvailable, some "late"⟩) := by
  have hfield (database field criteria : Argument)
      (h : [.range (.owned [[.text "Tree", .text "Age"], [.text "Apple"],
            [.text "Pear", .error ⟨.notAvailable, some "late"⟩]]),
          .scalar (.text "Age"), .range (.owned [[.text "Tree"]])] = [database, field, criteria]) :
      ¬ IsEmptyField field := by
    cases h
    rintro ⟨_, ⟨⟩⟩
  have hcells : matchedCells (Matcher.standard {})
      [.range (.owned [[.text "Tree", .text "Age"], [.text "Apple"],
          [.text "Pear", .error ⟨.notAvailable, some "late"⟩]]),
        .scalar (.text "Age"), .range (.owned [[.text "Tree"]])] =
      .ok [.empty, .error ⟨.notAvailable, some "late"⟩] := rfl
  have hcounted := congrArg (Except.map Aggregate.countFilled) hcells
  obtain ⟨-, -, -, cells, hmatches, -, hvalue⟩ :=
    (singleRecord_of_countA _ _ hfield).2.2 1 hcounted
  cases hcells.symm.trans ((matchedCells_eq_ok_iff _ _ cells).mpr hmatches)
  exact ⟨hfield, (hvalue _).mpr rfl⟩

/-! ### The mean -/

namespace Average

variable (r : Except CellError (Option (List Cell)))

theorem bind_ofSelected_division_iff :
    (∃ message, r.bind ofSelected = .error ⟨.division, message⟩) ↔
      (cellsOfAnswer r).map (fun cells ↦ (cells.filterMap Cell.entry?).length) = .ok 0 := by
  cases r with
  | error e =>
    by_cases hkind : e.kind = .division
    · rw [cellsOfAnswer_of_division hkind]
      refine iff_of_true ⟨e.message, ?_⟩ rfl
      rw [← hkind]
      rfl
    · rw [cellsOfAnswer_of_not_division hkind]
      refine iff_of_false ?_ (by simp [Except.map])
      rintro ⟨message, h⟩
      cases h
      exact hkind rfl
  | ok selected =>
    cases selected with
    | none => exact iff_of_true ⟨_, rfl⟩ rfl
    | some values =>
      change (∃ message, ofSelected (some values) = _) ↔
        Except.ok (values.filterMap Cell.entry?).length = _
      simp only [ofSelected]
      by_cases hnumbers : values.filterMap Cell.entry? = []
      · rw [if_pos hnumbers, hnumbers]
        exact iff_of_true ⟨_, rfl⟩ rfl
      · rw [if_neg hnumbers]
        simpa using hnumbers

theorem bind_ofSelected_error_iff (e : CellError) :
    r.bind ofSelected = .error e ∧ e.kind ≠ .division ↔ cellsOfAnswer r = .error e := by
  rw [cellsOfAnswer_eq_error_iff]
  refine and_congr_left fun hkind ↦ ?_
  cases r with
  | error other => simp [Except.bind]
  | ok selected =>
    refine iff_of_false (fun h ↦ hkind ?_) nofun
    change ofSelected selected = .error e at h
    cases selected with
    | none =>
      cases h
      rfl
    | some values =>
      simp only [ofSelected] at h
      split at h
      · cases h
        rfl
      · cases h

variable {r}

theorem exists_number_of_bind_ofSelected {value : Cell} (h : r.bind ofSelected = .ok value) :
    ∃ x, value = .number x := by
  cases r with
  | error e => cases h
  | ok selected =>
    change ofSelected selected = .ok value at h
    cases selected with
    | none => cases h
    | some values =>
      simp only [ofSelected] at h
      split at h
      · cases h
      · cases h
        exact ⟨_, rfl⟩

theorem bind_ofSelected_of_numbers {cells : List Cell} (h : cellsOfAnswer r = .ok cells)
    (hnumbers : cells.filterMap Cell.entry? ≠ []) :
    r.bind ofSelected = .ok (.number ((cells.filterMap Cell.entry?).foldl (· + ·) 0.0 /
      Float.ofNat (cells.filterMap Cell.entry?).length)) := by
  obtain rfl | ⟨rfl, -⟩ := (cellsOfAnswer_eq_ok_iff r cells).mp h
  · exact if_neg hnumbers
  · exact absurd rfl hnumbers

end Average

section

variable {m : Matcher} {database field criteria : Argument}

theorem call_average_eq_error_iff (e : CellError) :
    averageFunction.call m [database, field, criteria] = .error e ↔
      (answer m {} [database, field, criteria]).bind Average.ofSelected = .error e := by
  rw [← Average.eval_eq_bind]
  refine call_eq_error_iff_of_numbers rfl fun value hvalue ↦ ?_
  rw [Average.eval_eq_bind] at hvalue
  exact Average.exists_number_of_bind_ofSelected hvalue

theorem call_count_eq_error_iff (e : CellError) :
    Aggregate.count.function.call m [database, field, criteria] = .error e ↔
      countedNumbers m [database, field, criteria] = .error e := by
  rw [call_eq_error_iff_of_numbers rfl, eval_count, map_eq_error_iff]
  intro value hvalue
  rw [eval_count] at hvalue
  obtain ⟨n, -, rfl⟩ := (map_eq_ok_iff _ _ _).mp hvalue
  exact ⟨_, rfl⟩

/-- The mean of the numbers among the cells that a call matches, if there are any. -/
theorem call_average_of_numbers (hempty : fieldIsEmpty [database, field, criteria] = false)
    {cells : List Cell} (hcells : matchedCells m [database, field, criteria] = .ok cells)
    (hnumbers : cells.filterMap Cell.entry? ≠ []) :
    averageFunction.call m [database, field, criteria] =
      .number ((cells.filterMap Cell.entry?).foldl (· + ·) 0.0 /
        Float.ofNat (cells.filterMap Cell.entry?).length) := by
  have hskip : cellsOfAnswer (answer m {} [database, field, criteria]) = .ok (filled cells) := by
    rw [cellsOfAnswer_skip m hempty, hcells]
    rfl
  rw [← filterMap_filled Cell.entry? rfl] at hnumbers ⊢
  apply call_eq_of_eval_eq_ok rfl
  rw [Average.eval_eq_bind, Average.bind_ofSelected_of_numbers hskip hnumbers]

end

/-- The count of numbers decides the mean. The mean is a division by zero if and only if nothing is
counted, and has any other error if and only if the count has it. Otherwise it is the sum of the
numbers that are counted, from left to right, divided by their count. -/
theorem average_of_count (m : Matcher) (database field criteria : Argument)
    (hfield : ¬ IsEmptyField field) :
    ((∃ message, averageFunction.call m [database, field, criteria] =
          .error ⟨.division, message⟩) ↔
        countedNumbers m [database, field, criteria] = .ok 0) ∧
      (∀ e, averageFunction.call m [database, field, criteria] = .error e ∧ e.kind ≠ .division ↔
        Aggregate.count.function.call m [database, field, criteria] = .error e) ∧
      ∀ n, countedNumbers m [database, field, criteria] = .ok n →
        Aggregate.count.function.call m [database, field, criteria] = .number (Float.ofNat n) ∧
        (n ≠ 0 → ∃ cells, MatchesCells m [database, field, criteria] cells ∧
          (cells.filterMap Cell.entry?).length = n ∧
          averageFunction.call m [database, field, criteria] =
            .number ((cells.filterMap Cell.entry?).foldl (· + ·) 0.0 / Float.ofNat n)) := by
  have hempty : fieldIsEmpty [database, field, criteria] = false := by
    rw [← Bool.not_eq_true, ← isEmptyField_iff]
    exact hfield
  have hcounted := countedNumbers_eq_map m _ hempty
  refine ⟨?_, fun e ↦ ?_, fun n hn ↦ ⟨?_, fun hne ↦ ?_⟩⟩
  · simp only [call_average_eq_error_iff]
    rw [hcounted]
    exact Average.bind_ofSelected_division_iff _
  · rw [call_average_eq_error_iff, call_count_eq_error_iff, hcounted, map_eq_error_iff]
    exact Average.bind_ofSelected_error_iff _ e
  · apply call_eq_of_eval_eq_ok rfl
    rw [eval_count, hn]
    rfl
  · obtain ⟨cells, hcells, hlength⟩ := (map_eq_ok_iff _ _ _).mp hn
    rw [hempty] at hlength
    change (cells.filterMap Cell.entry?).length = n at hlength
    subst hlength
    exact ⟨cells, (matchedCells_eq_ok_iff m _ cells).mp hcells, rfl,
      call_average_of_numbers hempty hcells (List.ne_nil_of_length_pos (Nat.pos_of_ne_zero hne))⟩

/-- A number and a text that opens with one are counted, and a blank and a truth value are not. -/
theorem average_of_mixed_column :
    ¬ IsEmptyField (.scalar (.text "Age")) ∧
      countedNumbers (Matcher.standard {})
        [.range (.owned [[.text "Tree", .text "Age"], [.text "Apple", .int 4], [.text "Pear"],
            [.text "Fig", .text "5kg"], [.text "Plum", .boolean true]]),
          .scalar (.text "Age"), .range (.owned [[.text "Tree"]])] = .ok 2 ∧
      averageFunction.call (Matcher.standard {})
        [.range (.owned [[.text "Tree", .text "Age"], [.text "Apple", .int 4], [.text "Pear"],
            [.text "Fig", .text "5kg"], [.text "Plum", .boolean true]]),
          .scalar (.text "Age"), .range (.owned [[.text "Tree"]])] = .number 4.5 := by
  have hfield : ¬ IsEmptyField (.scalar (.text "Age")) := by rintro ⟨_, ⟨⟩⟩
  have hcells : matchedCells (Matcher.standard {})
      [.range (.owned [[.text "Tree", .text "Age"], [.text "Apple", .int 4], [.text "Pear"],
          [.text "Fig", .text "5kg"], [.text "Plum", .boolean true]]),
        .scalar (.text "Age"), .range (.owned [[.text "Tree"]])] =
      .ok [.int 4, .empty, .text "5kg", .boolean true] := rfl
  have hcounted := congrArg (Except.map (Aggregate.countNumbers false)) hcells
  obtain ⟨cells, hmatches, -, hcall⟩ :=
    ((average_of_count _ _ _ _ hfield).2.2 2 hcounted).2 (Nat.succ_ne_zero 1)
  cases hcells.symm.trans ((matchedCells_eq_ok_iff _ _ cells).mpr hmatches)
  refine ⟨hfield, hcounted, hcall.trans (congrArg Cell.number ?_)⟩
  decide +kernel

end Worksheet.Database
