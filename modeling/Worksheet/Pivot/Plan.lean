import Worksheet.Pivot.Accumulator

/-!
Accumulation by parts. The values are cut into chunks, and a plan says how the accumulators of the
chunks are merged: a run starts empty and merges its chunks from left to right, and a fork merges
the results of two plans.
-/

set_option autoImplicit false
set_option relaxedAutoImplicit false

namespace Worksheet.Pivot

/-- Chunks of `max size 1` values, the last one possibly shorter. -/
def chunks {β : Type} (size : Nat) (xs : List β) : List (List β) :=
  if xs.isEmpty then [] else xs.take (max size 1) :: chunks size (xs.drop (max size 1))
termination_by xs.length
decreasing_by
  simp only [List.length_drop]
  cases xs with
  | nil => simp at *
  | cons x xs => simp only [List.length_cons]; omega

inductive Plan (β : Type) where
  | run (chunks : List β)
  | fork (left right : Plan β)

namespace Plan

/-- The chunks of a plan from left to right. -/
def leaves {β : Type} : Plan β → List β
  | run chunks => chunks
  | fork left right => left.leaves ++ right.leaves

/-- Two runs over the two halves; below two chunks, one run. -/
def halves {β : Type} (chunks : List β) : Plan β :=
  if chunks.length < 2 then run chunks
  else fork (run (chunks.take (chunks.length / 2))) (run (chunks.drop (chunks.length / 2)))

def accumulate {α ε κ : Type} [Arithmetic α] [Extremes ε α] [Counter κ] :
    Plan (List α) → Accumulator α ε κ
  | run chunks => chunks.foldl (fun s chunk ↦ s.merge (Accumulator.ofList chunk)) .empty
  | fork left right => left.accumulate.merge right.accumulate

@[simp] theorem leaves_halves {β : Type} (chunks : List β) : (halves chunks).leaves = chunks := by
  unfold halves
  split
  · rfl
  · simp [leaves]

end Plan

/-- The accumulator of the values, by chunks. -/
def accumulateChunks {α ε κ : Type} [Arithmetic α] [Extremes ε α] [Counter κ] (size : Nat)
    (xs : List α) : Accumulator α ε κ :=
  (Plan.halves (chunks size xs)).accumulate

@[simp] theorem flatten_chunks {β : Type} (size : Nat) (xs : List β) :
    (chunks size xs).flatten = xs := by
  fun_induction chunks size xs with
  | case1 xs h => simpa using h.symm
  | case2 xs h ih => simp [ih]

end Worksheet.Pivot
