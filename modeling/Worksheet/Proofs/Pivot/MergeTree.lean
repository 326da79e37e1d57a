import Mathlib.Data.List.Perm.Basic
import Worksheet.Proofs.Pivot.ExactMoments

/-!
Accumulation by parts, in any order and any shape.

A merge tree scans each of its parts into an accumulator of its own and merges the accumulators
pairwise. On exact numbers the result depends on the numbers alone: it is the accumulator that
takes them one by one (`accumulate_eq_ofList_of_perm`).
-/

set_option autoImplicit false
set_option relaxedAutoImplicit false

namespace Worksheet.Pivot

/-- The order in which the accumulators of parts are merged. -/
inductive MergeTree (β : Type) where
  | part (items : β)
  | join (left right : MergeTree β)

namespace MergeTree

/-- The parts from left to right. -/
def parts {β : Type} : MergeTree β → List β
  | part items => [items]
  | join left right => left.parts ++ right.parts

def accumulate {α ε κ β : Type} [Arithmetic α] [Extremes ε α] [Counter κ]
    (scan : β → Accumulator α ε κ) : MergeTree β → Accumulator α ε κ
  | part items => scan items
  | join left right => (left.accumulate scan).merge (right.accumulate scan)

theorem accumulate_ofList_eq_moments (t : MergeTree (List ℚ)) :
    t.accumulate Accumulator.ofList = moments t.parts.flatten := by
  induction t with
  | part items =>
    rw [accumulate, ofList_eq_moments, parts, List.flatten_singleton]
  | join left right hleft hright =>
    rw [accumulate, hleft, hright, merge_moments, parts, List.flatten_append,
      Multiset.coe_add]

/-- However a list of exact numbers is cut into parts, and in whatever order and shape the
accumulators of the parts are merged, the result is the accumulator of the list. -/
theorem accumulate_eq_ofList_of_perm (t : MergeTree (List ℚ)) (xs : List ℚ)
    (h : t.parts.flatten.Perm xs) :
    (t.accumulate Accumulator.ofList : ExactAccumulator) = Accumulator.ofList xs := by
  rw [accumulate_ofList_eq_moments, ofList_eq_moments, Multiset.coe_eq_coe.mpr h]

/-- Five numbers in four parts, one of them empty, merged from the last part on. -/
theorem accumulate_four_parts :
    [[5, -2], [], [1 / 2], [7, 3]].flatten.Perm [7, 3, 5, -2, (1 / 2 : ℚ)] ∧
      ((join (join (part [5, -2]) (part [])) (join (part [1 / 2]) (part [7, 3]))).accumulate
          Accumulator.ofList : ExactAccumulator) = Accumulator.ofList [7, 3, 5, -2, 1 / 2] := by
  have hperm : [[5, -2], [], [1 / 2], [7, 3]].flatten.Perm [7, 3, 5, -2, (1 / 2 : ℚ)] := by
    decide +kernel
  exact ⟨hperm, accumulate_eq_ofList_of_perm _ _ hperm⟩

end MergeTree

end Worksheet.Pivot
