import Worksheet.Proofs.Database.BlockForms

/-!
The number of arguments, counted twice.

A call counts its arguments, and the selection of values counts them again before it looks at any
of them. The second count reports its fault through the reductions, some of which make a value of a
division by zero; a wrong count is a fault of another kind, so every reduction hands it on
(`Reduction.eval_of_gather_eq_error`). The two counts then agree on which argument lists are wrong,
whatever errors stand among the arguments, and differ in the wording alone
(`call_agrees_with_eval`).
-/

set_option autoImplicit false
set_option relaxedAutoImplicit false

namespace Worksheet.Database

open Worksheet.Criteria

theorem gather_of_length_ne_three (m : Matcher) (options : QueryOptions) (args : List Argument)
    (h : args.length ≠ 3) : gather m options args = .error (.argumentCount args.length) := by
  unfold gather
  split
  · exact absurd rfl h
  · rfl

section

variable {f : SheetFunction} (hf : f ∈ functions) (m : Matcher) {args : List Argument}

include hf

theorem eval_of_length_ne_three (h : args.length ≠ 3) :
    f.eval m args = .error (EvalFault.argumentCount args.length).error := by
  obtain ⟨capabilities, r, hform, -⟩ := reduction_of_mem_functions f hf
  have hr : r.eval m args = .error (.argumentCount args.length) :=
    r.eval_of_gather_eq_error m args _ rfl fun options ↦
      gather_of_length_ne_three m options args h
  rw [hform]
  exact congrArg (Except.mapError EvalFault.error) hr

theorem arityError_eq (count : Nat) :
    f.arityError count = ⟨.value, f.name ++ " expects 3 arguments, got " ++
      String.ofList (Decimal.natText count)⟩ := by
  obtain ⟨capabilities, r, hform, -⟩ := reduction_of_mem_functions f hf
  have hwords : " expects " ++ ("3" ++ " arguments, got ") = " expects 3 arguments, got " := by
    decide
  rw [hform, ← hwords, ← String.append_assoc, ← String.append_assoc]
  rfl

end

/-- With three arguments a call is the value of the evaluation, or its error as a value. With any
other number both are errors of one kind, which name the number; errors among the arguments do not
matter. -/
theorem call_agrees_with_eval (f : SheetFunction) (hf : f ∈ functions) (m : Matcher)
    (args : List Argument) :
    (args.length = 3 →
      (∀ value, f.eval m args = .ok value → f.call m args = value) ∧
        ∀ e, f.eval m args = .error e → f.call m args = .error e) ∧
      (args.length ≠ 3 →
        f.call m args = .error ⟨.value, f.name ++ " expects 3 arguments, got " ++
          String.ofList (Decimal.natText args.length)⟩ ∧
        f.eval m args = .error ⟨.value, "D-function expects 3 arguments, got " ++
          String.ofList (Decimal.natText args.length)⟩) := by
  constructor
  · intro h
    rw [SheetFunction.call, if_pos ((admits_eq_decide hf args.length).trans (decide_eq_true h))]
    constructor
    · intro value hvalue
      rw [hvalue]
    · intro e he
      rw [he]
  · intro h
    rw [call_of_length_ne_three hf m h, arityError_eq hf]
    exact ⟨rfl, eval_of_length_ne_three hf m h⟩

/-- Errors of other kinds among two arguments do not show, in the look-up of a single record. Among
three they do. -/
theorem call_singleRecord_of_error_arguments :
    databaseFunction "DGET" [.pure, .lookup] .singleRecord ∈ functions ∧
      (databaseFunction "DGET" [.pure, .lookup] .singleRecord).call (Matcher.standard {})
          [.scalar (.error ⟨.division, none⟩), .scalar (.error ⟨.reference, none⟩)] =
        .error ⟨.value, "DGET expects 3 arguments, got 2"⟩ ∧
      (databaseFunction "DGET" [.pure, .lookup] .singleRecord).eval (Matcher.standard {})
          [.scalar (.error ⟨.division, none⟩), .scalar (.error ⟨.reference, none⟩)] =
        .error ⟨.value, "D-function expects 3 arguments, got 2"⟩ ∧
      (databaseFunction "DGET" [.pure, .lookup] .singleRecord).call (Matcher.standard {})
          [.scalar .empty, .scalar .empty, .scalar (.error ⟨.reference, none⟩)] =
        .error ⟨.reference, none⟩ := by
  have hmem : databaseFunction "DGET" [.pure, .lookup] .singleRecord ∈ functions := by
    simp [functions]
  have htwo := (call_agrees_with_eval _ hmem (Matcher.standard {})
    [.scalar (.error ⟨.division, none⟩), .scalar (.error ⟨.reference, none⟩)]).2 (by decide)
  have hthree := (call_agrees_with_eval _ hmem (Matcher.standard {})
    [.scalar .empty, .scalar .empty, .scalar (.error ⟨.reference, none⟩)]).1 rfl
  exact ⟨hmem, htwo.1, htwo.2, hthree.2 _ rfl⟩

end Worksheet.Database
