import Worksheet.Proofs.Database.DeviationFamily

/-!
The cells that a call matches.

The counts keep blanks, let the field be empty, and take an empty selection and a division by zero
for nothing to count. `matchedCells` holds the cells that are left to count on these terms, and
`matchedCells_eq_ok_iff` says which they are without a query: `MatchesCells` reads them off the
records that the criteria select. The functions that pass over blanks go through the same cells
without their blanks as long as the field is not empty (`cellsOfAnswer_skip`), so each of them
can be compared with a count.
-/

set_option autoImplicit false
set_option relaxedAutoImplicit false

namespace Worksheet.Database

open Worksheet.Criteria HeaderIndex

open Deviation (filled)

/-! ### The functions -/

namespace Aggregate

def name : Aggregate → String
  | sum => "DSUM"
  | count => "DCOUNT"
  | countA => "DCOUNTA"
  | max => "DMAX"
  | min => "DMIN"
  | product => "DPRODUCT"

def capabilities : Aggregate → List Capability
  | sum | count | countA => [.pure, .reduction]
  | max | min | product => [.pure, .reduction, .numericOnly]

/-- The database function of the aggregate. -/
def function (a : Aggregate) : SheetFunction :=
  databaseFunction a.name a.capabilities (.aggregate a)

theorem function_mem_functions (a : Aggregate) : a.function ∈ functions := by
  cases a <;> simp [function, functions, name, capabilities]

end Aggregate

def averageFunction : SheetFunction :=
  databaseFunction "DAVERAGE" [.pure, .reduction, .numericOnly] .average

def singleRecordFunction : SheetFunction :=
  databaseFunction "DGET" [.pure, .lookup] .singleRecord

section

variable {f : SheetFunction} {m : Matcher} {args : List Argument}

theorem call_eq_of_eval_eq_ok {value : Cell} (hadmits : f.admits args.length = true)
    (h : f.eval m args = .ok value) : f.call m args = value := by
  rw [SheetFunction.call, if_pos hadmits, h]

/-- A call of a function that has numbers for values is an error where the function fails. -/
theorem call_eq_error_iff_of_numbers {e : CellError} (hadmits : f.admits args.length = true)
    (hnumbers : ∀ value, f.eval m args = .ok value → ∃ x, value = .number x) :
    f.call m args = .error e ↔ f.eval m args = .error e := by
  rw [SheetFunction.call, if_pos hadmits]
  cases heval : f.eval m args with
  | error other => simp
  | ok value =>
    obtain ⟨x, rfl⟩ := hnumbers value heval
    simp

end

/-! ### What a function makes of an answer -/

section

variable {ε α β : Type} (x : Except ε α) (f : α → β)

theorem map_eq_ok_iff (b : β) : x.map f = .ok b ↔ ∃ a, x = .ok a ∧ f a = b := by
  cases x <;> simp [Except.map]

theorem map_eq_error_iff (e : ε) : x.map f = .error e ↔ x = .error e := by
  cases x <;> simp [Except.map]

end

/-- The answer of a selection, as a caller sees it. -/
def answer (m : Matcher) (options : QueryOptions) (args : List Argument) :
    Except CellError (Option (List Cell)) :=
  (gather m options args).mapError EvalFault.error

/-- The answer brings no values: no record is selected, or it is a division by zero. -/
def BringsNothing (r : Except CellError (Option (List Cell))) : Prop :=
  r = .ok none ∨ ∃ e, r = .error e ∧ e.kind = .division

/-- The cells that an answer brings. -/
def cellsOfAnswer : Except CellError (Option (List Cell)) → Except CellError (List Cell)
  | .ok selected => .ok (selected.getD [])
  | .error e => if e.kind = .division then .ok [] else .error e

theorem cellsOfAnswer_of_division {e : CellError} (h : e.kind = .division) :
    cellsOfAnswer (.error e) = .ok [] := if_pos h

theorem cellsOfAnswer_of_not_division {e : CellError} (h : e.kind ≠ .division) :
    cellsOfAnswer (.error e) = .error e := if_neg h

theorem cellsOfAnswer_of_bringsNothing {r : Except CellError (Option (List Cell))}
    (h : BringsNothing r) : cellsOfAnswer r = .ok [] := by
  rcases h with rfl | ⟨e, rfl, hkind⟩
  · rfl
  · exact cellsOfAnswer_of_division hkind

theorem cellsOfAnswer_eq_ok_iff (r : Except CellError (Option (List Cell))) (cells : List Cell) :
    cellsOfAnswer r = .ok cells ↔ r = .ok (some cells) ∨ cells = [] ∧ BringsNothing r := by
  constructor
  · intro h
    cases r with
    | ok selected =>
      cases h
      cases selected with
      | none => exact Or.inr ⟨rfl, Or.inl rfl⟩
      | some values => exact Or.inl rfl
    | error e =>
      by_cases hkind : e.kind = .division
      · rw [cellsOfAnswer_of_division hkind] at h
        cases h
        exact Or.inr ⟨rfl, Or.inr ⟨e, rfl, hkind⟩⟩
      · rw [cellsOfAnswer_of_not_division hkind] at h
        cases h
  · rintro (rfl | ⟨rfl, hnothing⟩)
    · rfl
    · exact cellsOfAnswer_of_bringsNothing hnothing

theorem cellsOfAnswer_eq_error_iff (r : Except CellError (Option (List Cell))) (e : CellError) :
    cellsOfAnswer r = .error e ↔ r = .error e ∧ e.kind ≠ .division := by
  constructor
  · intro h
    cases r with
    | ok selected => cases h
    | error other =>
      by_cases hkind : other.kind = .division
      · rw [cellsOfAnswer_of_division hkind] at h
        cases h
      · rw [cellsOfAnswer_of_not_division hkind] at h
        cases h
        exact ⟨rfl, hkind⟩
  · rintro ⟨rfl, hkind⟩
    exact cellsOfAnswer_of_not_division hkind

/-- The value of an aggregate, from the answer to its selection. -/
def Aggregate.ofAnswer (a : Aggregate) (emptyField : Bool) :
    Except CellError (Option (List Cell)) → Except CellError Cell
  | .ok (some values) => .ok (.number (a.reduce emptyField values))
  | .ok none => .ok (.number 0.0)
  | .error e => if e.kind = .division then .ok (.number 0.0) else .error e

/-- The only one of some values. -/
def SingleRecord.ofValues : List Cell → Except CellError Cell
  | [] => .error EvalFault.noRecord.error
  | [value] => .ok value
  | _ :: _ :: _ => .error EvalFault.manyRecords.error

/-- The mean of what is selected. -/
def Average.ofSelected : Option (List Cell) → Except CellError Cell
  | none => .error EvalFault.nothingSelected.error
  | some values =>
    let numbers := values.filterMap Cell.entry?
    if numbers = [] then .error EvalFault.nothingToAverage.error
    else .ok (.number (numbers.foldl (· + ·) 0.0 / Float.ofNat numbers.length))

section

variable (m : Matcher) (args : List Argument)

theorem Aggregate.eval_eq_ofAnswer (a : Aggregate) :
    a.function.eval m args = a.ofAnswer (fieldIsEmpty args) (answer m a.options args) := by
  change (a.eval m args).mapError EvalFault.error = _
  unfold Aggregate.eval answer
  cases gather m a.options args with
  | error fault =>
    by_cases hkind : fault.error.kind = .division
    · simp [EvalFault.isDivision, Except.mapError, ofAnswer, hkind]
    · simp [EvalFault.isDivision, Except.mapError, ofAnswer, hkind]
  | ok selected => cases selected <;> rfl

/-- An aggregate that is zero on nothing reduces the cells that its answer brings. -/
theorem Aggregate.eval_eq_map {a : Aggregate} (hzero : a.reduce (fieldIsEmpty args) [] = 0.0) :
    a.function.eval m args =
      (cellsOfAnswer (answer m a.options args)).map fun cells ↦
        .number (a.reduce (fieldIsEmpty args) cells) := by
  rw [a.eval_eq_ofAnswer]
  cases answer m a.options args with
  | error e =>
    by_cases hkind : e.kind = .division
    · rw [cellsOfAnswer_of_division hkind, Except.map, hzero]
      exact if_pos hkind
    · rw [cellsOfAnswer_of_not_division hkind]
      exact if_neg hkind
  | ok selected =>
    cases selected with
    | none =>
      change _ = Except.ok (Cell.number (a.reduce (fieldIsEmpty args) []))
      rw [hzero]
      rfl
    | some values => rfl

theorem SingleRecord.eval_eq_bind :
    singleRecordFunction.eval m args = (cellsOfAnswer (answer m {} args)).bind ofValues := by
  change (SingleRecord.eval m args).mapError EvalFault.error = _
  unfold SingleRecord.eval answer
  cases gather m {} args with
  | error fault =>
    by_cases hkind : fault.error.kind = .division
    · simp [EvalFault.isDivision, Except.mapError, cellsOfAnswer, Except.bind, ofValues, hkind]
    · simp [EvalFault.isDivision, Except.mapError, cellsOfAnswer, Except.bind, hkind]
  | ok selected =>
    rcases selected with _ | _ | ⟨value, _ | ⟨other, rest⟩⟩
    · rfl
    · rfl
    · rfl
    · rfl

theorem Average.eval_eq_bind :
    averageFunction.eval m args = (answer m {} args).bind ofSelected := by
  change (Average.eval m args).mapError EvalFault.error = _
  unfold Average.eval answer
  cases gather m {} args with
  | error fault => rfl
  | ok selected =>
    cases selected with
    | none => rfl
    | some values =>
      change Except.mapError EvalFault.error
        (if (values.filterMap Cell.entry?).isEmpty then _ else _) = ofSelected (some values)
      simp only [ofSelected, List.isEmpty_iff]
      by_cases hnumbers : values.filterMap Cell.entry? = []
      · rw [if_pos hnumbers, if_pos hnumbers]
        rfl
      · rw [if_neg hnumbers, if_neg hnumbers]
        rfl

end

/-! ### The cells without their blanks -/

theorem fieldIsEmpty_iff (database field criteria : Argument) :
    fieldIsEmpty [database, field, criteria] = true ↔ field.value.AmountsTo .empty := by
  rw [← Cell.single_eq_ok_iff]
  unfold fieldIsEmpty
  dsimp only
  cases field.value.single with
  | error n => simp
  | ok c => simp [Cell.isEmpty_iff]

/-- Whether an empty field is allowed makes no difference to any other field. -/
theorem resolve_of_not_empty {field : Cell} (h : ¬ field.AmountsTo .empty)
    (options options' : QueryOptions) (data : HeaderIndex) :
    Field.resolve options data field = Field.resolve options' data field := by
  unfold Field.resolve
  cases hsingle : field.single with
  | error n => rfl
  | ok c =>
    cases c with
    | empty => exact absurd ((Cell.single_eq_ok_iff ..).mp hsingle) h
    | _ => rfl

theorem run_of_not_empty (m : Matcher) (database : Block) {field : Cell}
    (h : ¬ field.AmountsTo .empty) (criteria : Block) :
    Query.run m Aggregate.count.options database field criteria =
      Query.run m { keepEmpty := true } database field criteria := by
  unfold Query.run
  dsimp only
  rw [resolve_of_not_empty h Aggregate.count.options { keepEmpty := true }]
  rfl

section

variable (m : Matcher) {args : List Argument}

/-- The cells that a call is left to count. Blanks are cells, and an empty field stands for a
column. -/
def matchedCells (args : List Argument) : Except CellError (List Cell) :=
  cellsOfAnswer (answer m Aggregate.count.options args)

theorem gather_skip (h : fieldIsEmpty args = false) :
    gather m {} args =
      (gather m Aggregate.count.options args).bind fun selected ↦
        (dropBlanks selected).mapError .query := by
  match args with
  | [database, field, criteria] =>
    have hfield : ¬ field.value.AmountsTo .empty := by
      rw [← fieldIsEmpty_iff database field criteria, h]
      exact Bool.false_ne_true
    have hrun := run_of_not_empty m database.block hfield criteria.block
    rw [gather_dropBlanks]
    simp only [gather, hrun]
  | [] | [_] | [_, _] | _ :: _ :: _ :: _ :: _ => rfl

/-- To pass over the blanks of a selection is to drop them from its cells. A selection of which only
blanks are left brings nothing. -/
theorem cellsOfAnswer_skip (h : fieldIsEmpty args = false) :
    cellsOfAnswer (answer m {} args) = (matchedCells m args).map filled := by
  unfold matchedCells answer
  rw [gather_skip m h]
  cases gather m Aggregate.count.options args with
  | error fault =>
    change cellsOfAnswer (.error fault.error) = (cellsOfAnswer (.error fault.error)).map filled
    by_cases hkind : fault.error.kind = .division
    · rw [cellsOfAnswer_of_division hkind]
      rfl
    · rw [cellsOfAnswer_of_not_division hkind]
      rfl
  | ok selected =>
    cases selected with
    | none => rfl
    | some values =>
      have hdrop : dropBlanks (some values) =
          if filled values = [] then .error .nothingSurvives else .ok (some (filled values)) := rfl
      change cellsOfAnswer (((dropBlanks (some values)).mapError .query).mapError EvalFault.error) =
        .ok (filled values)
      rw [hdrop]
      by_cases hnil : filled values = []
      · rw [if_pos hnil, hnil]
        rfl
      · rw [if_neg hnil]
        rfl

end

/-! ### The matched cells without a query -/

/-- These cells stand under the header that the field asks for on the selected records, in their
order and with their blanks. A division by zero among the arguments leaves none. Where no record is
selected there are none either, whether or not the header exists. -/
inductive MatchesCells (m : Matcher) : List Argument → List Cell → Prop where
  | divisionArgument (database field criteria : Argument) (e : CellError)
      (hargs : [database, field, criteria].findSome? Argument.error? = some e)
      (hkind : e.kind = .division) : MatchesCells m [database, field, criteria] []
  | divisionField (database field criteria : Argument) (e : CellError)
      (hargs : [database, field, criteria].findSome? Argument.error? = none)
      (hcell : field.value.AmountsTo (.error e)) (hkind : e.kind = .division) :
      MatchesCells m [database, field, criteria] []
  | noRecord (database field criteria : Argument)
      (hargs : [database, field, criteria].findSome? Argument.error? = none)
      (hfield : ∀ fault, ¬ FieldFails Aggregate.count.options database.block field.value fault)
      (hconstrains : Constrains database.block criteria.block)
      (hnone : ∀ record, ¬ IsSelected m database.block criteria.block record) :
      MatchesCells m [database, field, criteria] []
  | selected (database field criteria : Argument)
      (hargs : [database, field, criteria].findSome? Argument.error? = none) (header : String)
      (hasks : FieldAsks Aggregate.count.options database.block criteria.block field.value header)
      (hmem : header ∈ headers database.block) (records : List Nat)
      (hsorted : records.Pairwise (· < ·))
      (hrecords : ∀ record, record ∈ records ↔
        IsSelected m database.block criteria.block record) :
      MatchesCells m [database, field, criteria] (records.map (valueUnder database.block header))

/-- Only an error in the field makes a division by zero of a field that fails on sight. -/
theorem amountsTo_of_division_fault {options : QueryOptions} {database : Block} {field : Cell}
    {fault : QueryFault} (h : FieldFails options database field fault)
    (hkind : fault.error.kind = .division) : field.AmountsTo (.error fault.error) := by
  cases h with
  | errorCell e hcell => exact hcell
  | _ => cases hkind

section

variable {m : Matcher} {database field criteria : Argument}

theorem answer_of_error {e : CellError} (options : QueryOptions)
    (hargs : [database, field, criteria].findSome? Argument.error? = some e) :
    answer m options [database, field, criteria] = .error e := by
  unfold answer gather
  dsimp only
  rw [hargs]
  rfl

theorem answer_of_no_error (options : QueryOptions)
    (hargs : [database, field, criteria].findSome? Argument.error? = none) :
    answer m options [database, field, criteria] =
      (Query.run m options database.block field.value criteria.block).mapError
        QueryFault.error := by
  unfold answer gather
  dsimp only
  rw [hargs]
  cases Query.run m options database.block field.value criteria.block <;> rfl

theorem matchedCells_of_outcome
    (hargs : [database, field, criteria].findSome? Argument.error? = none)
    {r : Except CellError (Option (List Cell))}
    (h : Outcome m Aggregate.count.options database.block field.value criteria.block r) :
    matchedCells m [database, field, criteria] = cellsOfAnswer r := by
  rw [matchedCells, answer_of_no_error _ hargs, answer_of_outcome h]

theorem matchesCells_of_outcome
    (hargs : [database, field, criteria].findSome? Argument.error? = none)
    {r : Except CellError (Option (List Cell))}
    (h : Outcome m Aggregate.count.options database.block field.value criteria.block r)
    {cells : List Cell} (hcells : cellsOfAnswer r = .ok cells) :
    MatchesCells m [database, field, criteria] cells := by
  cases h with
  | fieldFails fault hfails =>
    by_cases hkind : fault.error.kind = .division
    · rw [cellsOfAnswer_of_division hkind] at hcells
      cases hcells
      exact .divisionField database field criteria fault.error hargs
        (amountsTo_of_division_fault hfails hkind) hkind
    · rw [cellsOfAnswer_of_not_division hkind] at hcells
      cases hcells
  | noRecord hfield hconstrains hnone =>
    cases hcells
    exact .noRecord database field criteria hargs hfield hconstrains hnone
  | noCriteriaHeader hreaches hempty hwidth => cases hcells
  | unknownHeader hreaches header hasks hunknown => cases hcells
  | nothingSurvives hreaches header hasks hmem hnone =>
    cases hcells
    refine .selected database field criteria hargs header hasks hmem [] .nil fun record ↦ ?_
    exact iff_of_false List.not_mem_nil
      ((survives_of_keepEmpty rfl header record).not.mp (hnone record))
  | values hreaches header hasks hmem records hsorted hrecords hsome =>
    cases hcells
    exact .selected database field criteria hargs header hasks hmem records hsorted fun record ↦
      (hrecords record).trans (survives_of_keepEmpty rfl header record)

/-- A header of the database and the selected records decide what a call matches; whether there are
such records, and whether the criteria constrain them, does not matter. -/
theorem matchedCells_of_selected
    (hargs : [database, field, criteria].findSome? Argument.error? = none) {header : String}
    (hasks : FieldAsks Aggregate.count.options database.block criteria.block field.value header)
    (hmem : header ∈ headers database.block) {records : List Nat}
    (hsorted : records.Pairwise (· < ·))
    (hrecords : ∀ record, record ∈ records ↔ IsSelected m database.block criteria.block record) :
    matchedCells m [database, field, criteria] =
      .ok (records.map (valueUnder database.block header)) := by
  have hfield := not_fieldFails_of_fieldAsks hasks
  by_cases hnil : records = []
  -- Without a record the query stops early or finds that nothing survives, and there are no cells.
  · subst hnil
    have hnone : ∀ record, ¬ IsSelected m database.block criteria.block record := fun record h ↦
      List.not_mem_nil ((hrecords record).mpr h)
    by_cases hconstrains : Constrains database.block criteria.block
    · exact matchedCells_of_outcome hargs (.noRecord hfield hconstrains hnone)
    · have hreaches : ReachesColumn m Aggregate.count.options database.block field.value
          criteria.block := ⟨hfield, fun h ↦ absurd h hconstrains⟩
      exact matchedCells_of_outcome hargs (.nothingSurvives hreaches header hasks hmem
        fun record h ↦ hnone record ((survives_of_keepEmpty rfl header record).mp h))
  · exact matchedCells_of_outcome hargs (.of_selected rfl hasks hmem hsorted hrecords hnil)

end

/-- The cells that a call is left to count are the cells that it matches. -/
theorem matchedCells_eq_ok_iff (m : Matcher) (args : List Argument) (cells : List Cell) :
    matchedCells m args = .ok cells ↔ MatchesCells m args cells := by
  constructor
  · intro h
    match args with
    | [database, field, criteria] =>
      cases hargs : [database, field, criteria].findSome? Argument.error? with
      | some e =>
        rw [matchedCells, answer_of_error _ hargs] at h
        by_cases hkind : e.kind = .division
        · rw [cellsOfAnswer_of_division hkind] at h
          cases h
          exact .divisionArgument database field criteria e hargs hkind
        · rw [cellsOfAnswer_of_not_division hkind] at h
          cases h
      | none =>
        obtain ⟨r, hr⟩ := exists_outcome m Aggregate.count.options database.block field.value
          criteria.block
        rw [matchedCells_of_outcome hargs hr] at h
        exact matchesCells_of_outcome hargs hr h
    | [] | [_] | [_, _] | _ :: _ :: _ :: _ :: _ => cases h
  · intro h
    cases h with
    | divisionArgument database field criteria e hargs hkind =>
      rw [matchedCells, answer_of_error _ hargs, cellsOfAnswer_of_division hkind]
    | divisionField database field criteria e hargs hcell hkind =>
      rw [matchedCells_of_outcome hargs (.fieldFails _ (.errorCell e hcell))]
      exact cellsOfAnswer_of_division hkind
    | noRecord database field criteria hargs hfield hconstrains hnone =>
      exact matchedCells_of_outcome hargs (.noRecord hfield hconstrains hnone)
    | selected database field criteria hargs header hasks hmem records hsorted hrecords =>
      exact matchedCells_of_selected hargs hasks hmem hsorted hrecords

end Worksheet.Database
