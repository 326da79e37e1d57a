import Worksheet.Proofs.Database.ErrorArguments
import Worksheet.Proofs.Database.Outcomes

/-!
The deviation family on every input.

The sample standard deviation passes over blanks before it selects, and the other three keep them.
A blank is neither a number nor an error, so the family reads the same samples and meets the same
first error. The two ways part only where nothing but blanks is selected, and there both report a
division by zero. So the four functions fail together with errors of one kind, or answer together
from the same samples (`deviations_agree`).
-/

set_option autoImplicit false
set_option relaxedAutoImplicit false

namespace Worksheet.Database

open Worksheet.Criteria HeaderIndex

namespace Deviation

/-! ### Samples -/

theorem samples_cons {c : Cell} (hc : c.error? = none) (cells : List Cell) :
    samples (c :: cells) = (samples cells).map (c.number?.toList ++ ·) := by
  cases c with
  | error e => cases hc
  | int i => rfl
  | number x => rfl
  | _ =>
    change samples cells = _
    cases samples cells <;> rfl

/-- An error among the cells is the fault, however many numbers stand before it. -/
theorem samples_of_first_error {cells : List Cell} {e : CellError}
    (h : cells.findSome? Cell.error? = some e) : samples cells = .error (.cell e) := by
  induction cells with
  | nil => cases h
  | cons c cells ih =>
    rw [List.findSome?_cons] at h
    cases hc : c.error? with
    | some first =>
      rw [hc] at h
      cases h
      rw [(Cell.error?_eq_some_iff c e).mp hc]
      rfl
    | none =>
      rw [hc] at h
      rw [samples_cons hc, ih h]
      rfl

theorem samples_of_no_error {cells : List Cell} (h : cells.findSome? Cell.error? = none) :
    samples cells = .ok (cells.filterMap Cell.number?) := by
  induction cells with
  | nil => rfl
  | cons c cells ih =>
    rw [List.findSome?_cons] at h
    cases hc : c.error? with
    | some first =>
      rw [hc] at h
      cases h
    | none =>
      rw [hc] at h
      rw [samples_cons hc, ih h, List.filterMap_cons]
      cases c.number? <;> rfl

/-! ### Blanks -/

/-- The values that are not blank. -/
def filled (values : List Cell) : List Cell := values.filter fun c ↦ !c.isEmpty

theorem filterMap_filled {β : Type} (f : Cell → Option β) (hf : f .empty = none)
    (values : List Cell) : (filled values).filterMap f = values.filterMap f := by
  rw [filled, List.filterMap_filter]
  refine List.filterMap_congr fun c _ ↦ ?_
  cases c with
  | empty => exact hf.symm
  | _ => rfl

theorem findSome?_filled (values : List Cell) :
    (filled values).findSome? Cell.error? = values.findSome? Cell.error? := by
  rw [← List.head?_filterMap, ← List.head?_filterMap, filterMap_filled Cell.error? rfl]

end Deviation

open Deviation (filled)

/-- What is left of a selection without its blanks. -/
def dropBlanks : Option (List Cell) → Except QueryFault (Option (List Cell))
  | none => .ok none
  | some values =>
    if filled values = [] then .error .nothingSurvives else .ok (some (filled values))

theorem project_dropBlanks (data criteria : HeaderIndex) (f : Field) (mask : RowMask) :
    some <$> Query.project {} data criteria f mask =
      (some <$> Query.project { keepEmpty := true } data criteria f mask).bind dropBlanks := by
  cases hheader : f.header criteria with
  | error fault =>
    rw [project_eq_headerFault mask hheader, project_eq_headerFault mask hheader]
    rfl
  | ok header =>
    cases hcolumn : data.column? header with
    | none =>
      rw [project_eq_noSuchHeader mask hheader hcolumn,
        project_eq_noSuchHeader mask hheader hcolumn]
      rfl
    | some column =>
      rw [project_eq_values mask hheader hcolumn, project_eq_values mask hheader hcolumn]
      simp only [Bool.true_or, Bool.false_or, List.filter_true]
      change some <$> (if filled (mask.pick column) = [] then _ else _) = _
      by_cases hnil : mask.pick column = []
      · rw [hnil]
        rfl
      · rw [if_neg hnil]
        change _ = if filled (mask.pick column) = [] then _ else _
        by_cases hfilled : filled (mask.pick column) = []
        · rw [if_pos hfilled, if_pos hfilled]
          rfl
        · rw [if_neg hfilled, if_neg hfilled]
          rfl

/-- To pass over blanks in a query is to drop them from its answer. -/
theorem run_dropBlanks (m : Matcher) (database : Block) (field : Cell) (criteria : Block) :
    Query.run m {} database field criteria =
      (Query.run m { keepEmpty := true } database field criteria).bind dropBlanks := by
  have hresolve : Field.resolve {} (ofDatabase database) field =
      Field.resolve { keepEmpty := true } (ofDatabase database) field := rfl
  unfold Query.run
  dsimp only
  rw [hresolve]
  cases Field.resolve { keepEmpty := true } (ofDatabase database) field with
  | error fault => rfl
  | ok f =>
    dsimp only [bind, Except.bind]
    cases Query.selection? m (ofDatabase database) (ofCriteria criteria) criteria with
    | none => exact project_dropBlanks _ _ f _
    | some mask =>
      dsimp only
      by_cases hcount : mask.count = 0
      · rw [if_pos hcount, if_pos hcount]
        rfl
      · rw [if_neg hcount, if_neg hcount]
        exact project_dropBlanks _ _ f mask

section

variable (m : Matcher) (database field criteria : Argument)

theorem gather_dropBlanks :
    gather m {} [database, field, criteria] =
      (gather m { keepEmpty := true } [database, field, criteria]).bind fun selected ↦
        (dropBlanks selected).mapError .query := by
  simp only [gather]
  cases [database, field, criteria].findSome? Argument.error? with
  | some e => rfl
  | none =>
    dsimp only
    rw [run_dropBlanks]
    cases Query.run m { keepEmpty := true } database.block field.value criteria.block <;> rfl

end

/-! ### What the family makes of a selection -/

namespace Deviation

def ofValues (d : Deviation) (values : List Cell) : Except EvalFault Cell :=
  (samples values).bind fun xs ↦
    if xs.isEmpty then .error .noNumbers else .ok (.number (d.reduce xs))

/-- The value of a function, from a selection that has kept its blanks. -/
def ofSelection (d : Deviation) : Option (List Cell) → Except EvalFault Cell
  | none => .error .nothingSelected
  | some values =>
    match d with
    | stdDev =>
      if filled values = [] then .error (.query .nothingSurvives) else d.ofValues (filled values)
    | _ => d.ofValues values

theorem eval_eq_bind_ofSelection (d : Deviation) (m : Matcher)
    (database field criteria : Argument) :
    d.eval m [database, field, criteria] =
      (gather m { keepEmpty := true } [database, field, criteria]).bind d.ofSelection := by
  have heval : d.eval m [database, field, criteria] =
      (gather m d.options [database, field, criteria]).bind fun selected ↦
        match selected with
        | none => .error .nothingSelected
        | some values => d.ofValues values := by
    rw [eval]
    cases gather m d.options [database, field, criteria] with
    | error fault => rfl
    | ok selected =>
      cases selected <;> rfl
  rw [heval]
  cases d with
  | stdDev =>
    rw [options, gather_dropBlanks]
    cases gather m { keepEmpty := true } [database, field, criteria] with
    | error fault => rfl
    | ok selected =>
      cases selected with
      | none => rfl
      | some values =>
        change ((dropBlanks (some values)).mapError _).bind _ = if filled values = [] then _ else _
        rw [dropBlanks]
        by_cases hnil : filled values = []
        · rw [if_pos hnil, if_pos hnil]
          rfl
        · rw [if_neg hnil, if_neg hnil]
          rfl
  | _ =>
    change (gather m { keepEmpty := true } [database, field, criteria]).bind _ = _
    cases gather m { keepEmpty := true } [database, field, criteria] with
    | error fault => rfl
    | ok selected => cases selected <;> rfl

theorem filled_ne_nil {values : List Cell} {β : Type} {f : Cell → Option β} (hf : f .empty = none)
    (h : values.filterMap f ≠ []) : filled values ≠ [] := by
  intro hnil
  rw [← filterMap_filled f hf, hnil] at h
  exact h rfl

theorem ofSelection_of_first_error {values : List Cell} {e : CellError}
    (h : values.findSome? Cell.error? = some e) (d : Deviation) :
    d.ofSelection (some values) = .error (.cell e) := by
  have hvalues (values : List Cell) (h : values.findSome? Cell.error? = some e) :
      d.ofValues values = .error (.cell e) := by
    rw [ofValues, samples_of_first_error h]
    rfl
  cases d with
  | stdDev =>
    have hfilled : (filled values).findSome? Cell.error? = some e := by rw [findSome?_filled, h]
    have hne : filled values ≠ [] := by
      intro hnil
      rw [hnil] at hfilled
      cases hfilled
    exact (if_neg hne).trans (hvalues _ hfilled)
  | _ => exact hvalues values h

theorem ofSelection_of_numbers {values : List Cell} (h : values.findSome? Cell.error? = none)
    (hxs : values.filterMap Cell.number? ≠ []) (d : Deviation) :
    d.ofSelection (some values) = .ok (.number (d.reduce (values.filterMap Cell.number?))) := by
  have hvalues (cells : List Cell) (h : cells.findSome? Cell.error? = none)
      (hxs : cells.filterMap Cell.number? = values.filterMap Cell.number?) :
      d.ofValues cells = .ok (.number (d.reduce (values.filterMap Cell.number?))) := by
    rw [ofValues, samples_of_no_error h, hxs]
    change (if (values.filterMap Cell.number?).isEmpty = true then _ else _) = _
    rw [if_neg (by rwa [List.isEmpty_iff])]
  cases d with
  | stdDev =>
    have hne : filled values ≠ [] := filled_ne_nil rfl hxs
    exact (if_neg hne).trans
      (hvalues _ (by rw [findSome?_filled, h]) (filterMap_filled Cell.number? rfl values))
  | _ => exact hvalues values h rfl

/-- Without a number the functions differ in the words of their error, not in its kind. -/
theorem ofSelection_of_no_number {values : List Cell} (h : values.findSome? Cell.error? = none)
    (hxs : values.filterMap Cell.number? = []) (d : Deviation) :
    ∃ fault, d.ofSelection (some values) = .error fault ∧ fault.error.kind = .division := by
  have hvalues (cells : List Cell) (h : cells.findSome? Cell.error? = none)
      (hxs : cells.filterMap Cell.number? = []) : d.ofValues cells = .error .noNumbers := by
    rw [ofValues, samples_of_no_error h, hxs]
    rfl
  cases d with
  | stdDev =>
    by_cases hnil : filled values = []
    · exact ⟨.query .nothingSurvives, if_pos hnil, rfl⟩
    · refine ⟨.noNumbers, (if_neg hnil).trans (hvalues _ ?_ ?_), rfl⟩
      · rw [findSome?_filled, h]
      · rw [filterMap_filled Cell.number? rfl, hxs]
  | _ => exact ⟨.noNumbers, hvalues values h hxs, rfl⟩

end Deviation

/-! ### The selection of a call -/

section

variable (m : Matcher) (database field criteria : Argument)

/-- No argument is an error, the field asks for a header of the database, and these are the cells
under it on the selected records, in their order and with their blanks. -/
def SelectsCells (cells : List Cell) : Prop :=
  [database, field, criteria].findSome? Argument.error? = none ∧
    ∃ (header : String) (records : List Nat),
      FieldAsks { keepEmpty := true } database.block criteria.block field.value header ∧
      header ∈ headers database.block ∧
      records.Pairwise (· < ·) ∧
      (∀ record, record ∈ records ↔ IsSelected m database.block criteria.block record) ∧
      cells = records.map (valueUnder database.block header)

private theorem mapError_eq_ok_iff {ε ε' α : Type} (f : ε → ε') (r : Except ε α) (a : α) :
    r.mapError f = .ok a ↔ r = .ok a := by
  cases r <;> simp [Except.mapError]

theorem gather_eq_some_iff (cells : List Cell) :
    gather m { keepEmpty := true } [database, field, criteria] = .ok (some cells) ↔
      SelectsCells m database field criteria cells ∧ cells ≠ [] := by
  unfold SelectsCells
  simp only [gather]
  cases [database, field, criteria].findSome? Argument.error? with
  | some e => simp
  | none =>
    dsimp only
    rw [mapError_eq_ok_iff, run_eq_ok_iff]
    constructor
    · intro h
      cases h with
      | values hreaches header hasks hmem records hsorted hrecords hsome =>
        refine ⟨⟨rfl, header, records, hasks, hmem, hsorted, fun record ↦ ?_, rfl⟩, by simpa⟩
        rw [hrecords, survives_of_keepEmpty rfl]
    · rintro ⟨⟨-, header, records, hasks, hmem, hsorted, hrecords, rfl⟩, hne⟩
      have hsome : records ≠ [] := fun hnil ↦ hne (by rw [hnil, List.map_nil])
      exact .of_selected rfl hasks hmem hsorted hrecords hsome

end

/-! ### The four functions -/

namespace Deviation

def name : Deviation → String
  | stdDev => "DSTDEV"
  | stdDevP => "DSTDEVP"
  | var => "DVAR"
  | varP => "DVARP"

/-- The database function of the family member. -/
def function (d : Deviation) : SheetFunction :=
  databaseFunction d.name [.pure, .reduction, .numericOnly] (.deviation d)

theorem function_mem_functions (d : Deviation) : d.function ∈ functions := by
  cases d <;> simp [function, functions, name]

variable {m : Matcher} {database field criteria : Argument} {cells : List Cell}

theorem call_of_eval_error {d : Deviation} {fault : EvalFault}
    (h : d.eval m [database, field, criteria] = .error fault) :
    d.function.call m [database, field, criteria] = .error fault.error :=
  call_of_eval_eq_error _ _ (.deviation d) m database field criteria fault h

theorem call_of_selection_error {d : Deviation} {selected : Option (List Cell)} {fault : EvalFault}
    (hgather : gather m { keepEmpty := true } [database, field, criteria] = .ok selected)
    (h : d.ofSelection selected = .error fault) :
    d.function.call m [database, field, criteria] = .error fault.error := by
  apply call_of_eval_error
  rw [d.eval_eq_bind_ofSelection, hgather]
  exact h

theorem call_of_first_error {e : CellError}
    (hgather : gather m { keepEmpty := true } [database, field, criteria] = .ok (some cells))
    (he : cells.findSome? Cell.error? = some e) (d : Deviation) :
    d.function.call m [database, field, criteria] = .error e :=
  call_of_selection_error hgather (ofSelection_of_first_error he d)

theorem call_of_no_number
    (hgather : gather m { keepEmpty := true } [database, field, criteria] = .ok (some cells))
    (he : cells.findSome? Cell.error? = none) (hxs : cells.filterMap Cell.number? = [])
    (d : Deviation) :
    ∃ message, d.function.call m [database, field, criteria] = .error ⟨.division, message⟩ := by
  obtain ⟨fault, hfault, hkind⟩ := ofSelection_of_no_number he hxs d
  refine ⟨fault.error.message, ?_⟩
  rw [call_of_selection_error hgather hfault, ← hkind]

theorem call_of_numbers
    (hgather : gather m { keepEmpty := true } [database, field, criteria] = .ok (some cells))
    (he : cells.findSome? Cell.error? = none) (hxs : cells.filterMap Cell.number? ≠ [])
    (d : Deviation) :
    d.function.call m [database, field, criteria] =
      .number (d.reduce (cells.filterMap Cell.number?)) := by
  refine call_of_eval_eq_ok _ _ (.deviation d) m database field criteria _ ?_
  change d.eval m _ = _
  rw [d.eval_eq_bind_ofSelection, hgather]
  exact ofSelection_of_numbers he hxs d

end Deviation

/-- The deviation family agrees on every three arguments: either its four functions return errors
of one kind, or they return the variances and their roots of the same samples, the numbers of the
selection. Where the selection holds an error, all four return the first one as it stands. -/
theorem deviations_agree (m : Matcher) (database field criteria : Argument) :
    ((∃ kind, ∀ d : Deviation, ∃ message,
        d.function.call m [database, field, criteria] = .error ⟨kind, message⟩) ∨
      ∃ cells xs, SelectsCells m database field criteria cells ∧
        cells.findSome? Cell.error? = none ∧ xs = cells.filterMap Cell.number? ∧ xs ≠ [] ∧
        Deviation.var.function.call m [database, field, criteria] = .number (sampleVariance xs) ∧
        Deviation.varP.function.call m [database, field, criteria] =
          .number (populationVariance xs) ∧
        Deviation.stdDev.function.call m [database, field, criteria] =
          .number (sampleVariance xs).sqrt ∧
        Deviation.stdDevP.function.call m [database, field, criteria] =
          .number (populationVariance xs).sqrt) ∧
      ∀ cells e, SelectsCells m database field criteria cells →
        cells.findSome? Cell.error? = some e →
          ∀ d : Deviation, d.function.call m [database, field, criteria] = .error e := by
  constructor
  · cases hgather : gather m { keepEmpty := true } [database, field, criteria] with
    | error fault =>
      refine Or.inl ⟨fault.error.kind, fun d ↦ ⟨fault.error.message, ?_⟩⟩
      apply Deviation.call_of_eval_error
      rw [d.eval_eq_bind_ofSelection, hgather]
      rfl
    | ok selected =>
      cases selected with
      | none =>
        exact Or.inl ⟨.division, fun d ↦ ⟨_, Deviation.call_of_selection_error hgather rfl⟩⟩
      | some cells =>
        cases he : cells.findSome? Cell.error? with
        | some e =>
          exact Or.inl ⟨e.kind, fun d ↦ ⟨e.message, Deviation.call_of_first_error hgather he d⟩⟩
        | none =>
          by_cases hxs : cells.filterMap Cell.number? = []
          · exact Or.inl ⟨.division, Deviation.call_of_no_number hgather he hxs⟩
          · have hselects := ((gather_eq_some_iff ..).mp hgather).1
            have hvalue := Deviation.call_of_numbers hgather he hxs
            exact Or.inr ⟨cells, _, hselects, he, rfl, hxs, hvalue .var, hvalue .varP,
              hvalue .stdDev, hvalue .stdDevP⟩
  · intro cells e hselects he
    have hne : cells ≠ [] := by
      rintro rfl
      cases he
    exact Deviation.call_of_first_error ((gather_eq_some_iff ..).mpr ⟨hselects, hne⟩) he

/-- A number and a blank stand before the error in the column; its message is kept. -/
theorem deviations_of_late_error :
    SelectsCells (Matcher.standard {})
        (.range (.owned [[.text "Tree", .text "Age"], [.text "Apple", .int 3], [.text "Pear"],
          [.text "Fig", .error ⟨.notAvailable, some "late"⟩]]))
        (.scalar (.text "Age")) (.range (.owned [[.text "Tree"]]))
        [.int 3, .empty, .error ⟨.notAvailable, some "late"⟩] ∧
      ∀ d : Deviation,
        d.function.call (Matcher.standard {})
            [.range (.owned [[.text "Tree", .text "Age"], [.text "Apple", .int 3], [.text "Pear"],
              [.text "Fig", .error ⟨.notAvailable, some "late"⟩]]),
              .scalar (.text "Age"), .range (.owned [[.text "Tree"]])] =
          .error ⟨.notAvailable, some "late"⟩ := by
  have hselects : SelectsCells (Matcher.standard {})
      (.range (.owned [[.text "Tree", .text "Age"], [.text "Apple", .int 3], [.text "Pear"],
        [.text "Fig", .error ⟨.notAvailable, some "late"⟩]]))
      (.scalar (.text "Age")) (.range (.owned [[.text "Tree"]]))
      [.int 3, .empty, .error ⟨.notAvailable, some "late"⟩] := by
    refine ⟨rfl, "Age", [0, 1, 2], ⟨.text "Age", .itself _ nofun, .name "Age" rfl⟩, ?_, ?_, ?_, rfl⟩
    · exact List.mem_cons_of_mem "Tree" List.mem_cons_self
    · decide
    · intro record
      constructor
      · intro hrecord
        refine ⟨?_, fun hconstrains ↦ absurd hconstrains.1 (by decide)⟩
        simp only [List.mem_cons, List.not_mem_nil, or_false] at hrecord
        change record < 3
        omega
      · intro hselected
        have hlt : record < 3 := hselected.1
        simp only [List.mem_cons, List.not_mem_nil, or_false]
        omega
  exact ⟨hselects, (deviations_agree ..).2 _ _ hselects rfl⟩

end Worksheet.Database
