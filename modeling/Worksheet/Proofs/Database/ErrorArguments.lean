import Worksheet.Database.Functions
import Worksheet.Proofs.Block

/-!
Errors among the arguments of a database function.

An argument that is an error stops a call before a record is tested, and so does a field that is a
block of one erroneous cell (`gather_eq_error_of_argumentError?`). What the caller sees depends on
the kind. Any error but a division by zero is the value of the call. A division by zero is also how
an empty selection is reported, so the functions that make a value of an empty selection make the
same value of this argument (`Reduction.onArgumentError`).
-/

set_option autoImplicit false
set_option relaxedAutoImplicit false

namespace Worksheet.Database

open Worksheet.Criteria

/-- The error that is the only cell of the rows. -/
def onlyError? : List (List Cell) → Option CellError
  | [[.error e]] => some e
  | _ => none

/-- The error in a block of one cell. -/
def blockError? : Argument → Option CellError
  | .range b => onlyError? b.rows
  | .scalar (.array rows) => onlyError? rows
  | _ => none

/-- The first argument that is an error; after the arguments, the block of the field is read. -/
def argumentError? (database field criteria : Argument) : Option CellError :=
  ([database, field, criteria].findSome? Argument.error?).or (blockError? field)

theorem rows_of_onlyError? {rows : List (List Cell)} {e : CellError}
    (h : onlyError? rows = some e) : rows = [[.error e]] := by
  unfold onlyError? at h
  split at h
  · cases h
    rfl
  · cases h

theorem single_value_of_blockError? (field : Argument) (e : CellError)
    (h : blockError? field = some e) : field.value.single = .ok (.error e) := by
  unfold blockError? at h
  split at h
  · next b =>
    have honly : b.only? = some (.error e) := Block.only?_of_rows (rows_of_onlyError? h)
    rw [Argument.value, honly]
    rfl
  · next rows =>
    rw [rows_of_onlyError? h]
    rfl
  · cases h

/-- An error among the arguments is the fault of a selection, whatever the options. -/
theorem gather_eq_error_of_argumentError? (m : Matcher) (database field criteria : Argument)
    (e : CellError) (h : argumentError? database field criteria = some e) :
    ∃ fault : EvalFault, fault.error = e ∧
      ∀ options, gather m options [database, field, criteria] = .error fault := by
  unfold argumentError? at h
  cases hscalar : [database, field, criteria].findSome? Argument.error? with
  | some first =>
    rw [hscalar] at h
    cases h
    refine ⟨.argument e, rfl, fun options ↦ ?_⟩
    simp only [gather, hscalar]
  | none =>
    rw [hscalar] at h
    refine ⟨.query (.fieldError e), rfl, fun options ↦ ?_⟩
    have hresolve : Field.resolve options (HeaderIndex.ofDatabase database.block) field.value =
        .error (.fieldError e) := by
      unfold Field.resolve
      rw [single_value_of_blockError? field e h]
    simp only [gather, hscalar, Query.run, hresolve]
    rfl

/-! ### What a reduction makes of a fault -/

/-- A fault of any kind but a division by zero comes out of every reduction unchanged. -/
theorem Reduction.eval_of_gather_eq_error (r : Reduction) (m : Matcher) (args : List Argument)
    (fault : EvalFault) (hfault : fault.isDivision = false)
    (h : ∀ options, gather m options args = .error fault) : r.eval m args = .error fault := by
  cases r with
  | aggregate a =>
    change a.eval m args = _
    simp only [Aggregate.eval, h, hfault, Bool.false_eq_true, if_false]
  | average =>
    change Average.eval m args = _
    rw [Average.eval, h]
    rfl
  | singleRecord =>
    change SingleRecord.eval m args = _
    simp only [SingleRecord.eval, h, hfault, Bool.false_eq_true, if_false]
  | deviation d =>
    change d.eval m args = _
    rw [Deviation.eval, h]
    rfl

/-- The value of a call with an error among its arguments. -/
def Reduction.onArgumentError (r : Reduction) (e : CellError) : Cell :=
  if e.kind = .division then
    match r with
    | .aggregate _ => .number 0.0
    | .singleRecord => .error EvalFault.noRecord.error
    | .average | .deviation _ => .error e
  else .error e

section

variable (name : String) (capabilities : List Capability) (r : Reduction) (m : Matcher)
  (database field criteria : Argument)

theorem admits_three :
    (databaseFunction name capabilities r).admits [database, field, criteria].length = true := rfl

theorem call_of_eval_eq_ok (value : Cell)
    (h : r.eval m [database, field, criteria] = .ok value) :
    (databaseFunction name capabilities r).call m [database, field, criteria] = value := by
  have heval : (databaseFunction name capabilities r).eval m [database, field, criteria] =
      .ok value := by
    change (r.eval m [database, field, criteria]).mapError EvalFault.error = _
    rw [h]
    rfl
  rw [SheetFunction.call, if_pos (admits_three name capabilities r database field criteria), heval]

theorem call_of_eval_eq_error (fault : EvalFault)
    (h : r.eval m [database, field, criteria] = .error fault) :
    (databaseFunction name capabilities r).call m [database, field, criteria] =
      .error fault.error := by
  have heval : (databaseFunction name capabilities r).eval m [database, field, criteria] =
      .error fault.error := by
    change (r.eval m [database, field, criteria]).mapError EvalFault.error = _
    rw [h]
    rfl
  rw [SheetFunction.call, if_pos (admits_three name capabilities r database field criteria), heval]

theorem call_of_gather_eq_error (fault : EvalFault)
    (h : ∀ options, gather m options [database, field, criteria] = .error fault) :
    (databaseFunction name capabilities r).call m [database, field, criteria] =
      r.onArgumentError fault.error := by
  unfold Reduction.onArgumentError
  by_cases hkind : fault.error.kind = .division
  · have hdivision : fault.isDivision = true := beq_iff_eq.mpr hkind
    rw [if_pos hkind]
    cases r with
    | aggregate a =>
      apply call_of_eval_eq_ok
      simp [Reduction.eval, Aggregate.eval, h, hdivision]
    | average =>
      apply call_of_eval_eq_error
      rw [Reduction.eval, Average.eval, h]
      rfl
    | singleRecord =>
      apply call_of_eval_eq_error
      simp [Reduction.eval, SingleRecord.eval, h, hdivision]
    | deviation d =>
      apply call_of_eval_eq_error
      rw [Reduction.eval, Deviation.eval, h]
      rfl
  · rw [if_neg hkind]
    apply call_of_eval_eq_error
    exact r.eval_of_gather_eq_error m _ fault (beq_eq_false_iff_ne.mpr hkind) h

end

/-! ### The twelve functions -/

/-- The names of the functions that make a number of an empty selection. -/
def totalNames : List String := ["DSUM", "DCOUNT", "DCOUNTA", "DMAX", "DMIN", "DPRODUCT"]

/-- The names of the functions that report an empty selection as a division by zero. -/
def partialNames : List String := ["DAVERAGE", "DSTDEV", "DSTDEVP", "DVAR", "DVARP"]

/-- What a database function does with an error argument can be read off its name. -/
theorem reduction_of_mem_functions (f : SheetFunction) (hf : f ∈ functions) :
    ∃ capabilities r, f = databaseFunction f.name capabilities r ∧
      ((f.name ∈ totalNames ∧ ∃ a, r = .aggregate a) ∨
        (f.name = "DGET" ∧ r = .singleRecord) ∨
        (f.name ∈ partialNames ∧ (r = .average ∨ ∃ d, r = .deviation d))) := by
  simp only [functions, List.mem_cons, List.not_mem_nil, or_false] at hf
  rcases hf with rfl | rfl | rfl | rfl | rfl | rfl | rfl | rfl | rfl | rfl | rfl | rfl <;>
    refine ⟨_, _, rfl, ?_⟩ <;> simp [databaseFunction, totalNames, partialNames]

theorem admits_eq_decide {f : SheetFunction} (hf : f ∈ functions) (count : Nat) :
    f.admits count = decide (count = 3) := by
  obtain ⟨capabilities, r, hform, -⟩ := reduction_of_mem_functions f hf
  rw [hform]
  change (decide (3 ≤ count) && decide (count ≤ 3)) = decide (count = 3)
  rw [← Bool.decide_and]
  exact decide_eq_decide.mpr (by omega)

theorem not_mem_partialNames_of_mem_totalNames :
    ∀ name ∈ totalNames, name ∉ partialNames ∧ name ≠ "DGET" := by decide

theorem not_mem_partialNames_singleRecord : "DGET" ∉ partialNames := by decide

theorem ne_singleRecord_of_mem_partialNames :
    ∀ name ∈ partialNames, name ∉ totalNames ∧ name ≠ "DGET" := by decide

/-- An error among the arguments is the value of the call unless it is a division by zero and the
function makes a value of an empty selection. The sums, counts, extremes and the product are then
zero, and the look-up of a single record reports that there is none. -/
theorem call_eq_error_argument_iff (f : SheetFunction) (hf : f ∈ functions) (m : Matcher)
    (database field criteria : Argument) (e : CellError)
    (he : argumentError? database field criteria = some e) :
    (f.call m [database, field, criteria] = .error e ↔
        e.kind ≠ .division ∨ f.name ∈ partialNames) ∧
      (e.kind = .division → f.name ∈ totalNames →
        f.call m [database, field, criteria] = .number 0.0) ∧
      (e.kind = .division → f.name = "DGET" →
        f.call m [database, field, criteria] =
          .error ⟨.value, some "No record matches criteria"⟩) := by
  obtain ⟨capabilities, r, hform, hname⟩ := reduction_of_mem_functions f hf
  obtain ⟨fault, hfault, hgather⟩ :=
    gather_eq_error_of_argumentError? m database field criteria e he
  have hcall : f.call m [database, field, criteria] = r.onArgumentError e := by
    rw [hform, ← hfault]
    exact call_of_gather_eq_error f.name capabilities r m database field criteria fault hgather
  rw [hcall]
  unfold Reduction.onArgumentError
  by_cases hkind : e.kind = .division
  · rcases hname with ⟨htotal, a, rfl⟩ | ⟨hget, rfl⟩ | ⟨hpartial, hr⟩
    · obtain ⟨hnot, hne⟩ := not_mem_partialNames_of_mem_totalNames f.name htotal
      simp [hkind, hnot, hne]
    · have hne : (⟨.value, some "No record matches criteria"⟩ : CellError) ≠ e := by
        intro heq
        rw [← heq] at hkind
        cases hkind
      simp [hkind, hget, not_mem_partialNames_singleRecord, hne, totalNames, EvalFault.error]
    · obtain ⟨hnot, hne⟩ := ne_singleRecord_of_mem_partialNames f.name hpartial
      rcases hr with rfl | ⟨d, rfl⟩ <;> simp [hpartial, hnot, hne]
  · simp [hkind]

/-- The look-up of a single record takes a division by zero in its database for a missing record. -/
theorem call_singleRecord_of_division_argument :
    databaseFunction "DGET" [.pure, .lookup] .singleRecord ∈ functions ∧
      argumentError? (.scalar (.error ⟨.division, some "gone"⟩)) (.scalar .empty)
        (.scalar (.error ⟨.name, none⟩)) = some ⟨.division, some "gone"⟩ ∧
      (databaseFunction "DGET" [.pure, .lookup] .singleRecord).call (Matcher.standard {})
          [.scalar (.error ⟨.division, some "gone"⟩), .scalar .empty,
            .scalar (.error ⟨.name, none⟩)] =
        .error ⟨.value, some "No record matches criteria"⟩ := by
  have hmem : databaseFunction "DGET" [.pure, .lookup] .singleRecord ∈ functions := by
    simp [functions]
  have hcall := call_eq_error_argument_iff _ hmem (Matcher.standard {})
    (.scalar (.error ⟨.division, some "gone"⟩)) (.scalar .empty) (.scalar (.error ⟨.name, none⟩))
    ⟨.division, some "gone"⟩ rfl
  exact ⟨hmem, rfl, hcall.2.2 rfl rfl⟩

/-- Not every error argument is the value of the call: a sum turns a division by zero into zero. -/
theorem error_argument_lost :
    ¬ ∀ f ∈ functions, ∀ (m : Matcher) (database field criteria : Argument) (e : CellError),
      argumentError? database field criteria = some e →
        f.call m [database, field, criteria] = .error e := by
  intro h
  have hsum := h (databaseFunction "DSUM" [.pure, .reduction] (.aggregate .sum))
    (by simp [functions]) (Matcher.standard {}) (.scalar (.error ⟨.division, none⟩))
    (.scalar .empty) (.scalar .empty) ⟨.division, none⟩ rfl
  cases hsum

end Worksheet.Database
