import Mathlib.Data.List.Perm.Basic
import Worksheet.Proofs.Pivot.ExactMoments

/-!
The spread of a sample, in one pass and in two.

An accumulator moves its mean with every number and lets its spread grow by the distances to the
mean before and after the move. The deviation functions take the mean of the whole sample first and
then the squared distances to it. On exact numbers the two agree (`ofList_variances_eq`): both are
the moments of the sample, in which the order of the numbers plays no part.
-/

set_option autoImplicit false
set_option relaxedAutoImplicit false

namespace Worksheet

open Pivot

/-! ### Two passes over exact numbers -/

/-- The negative zero that a sum starts from is no number of its own here. -/
theorem sum_exact (xs : List ℚ) : sum xs = xs.sum := by
  have hzero : -Arithmetic.ofCount 0 = (0 : ℚ) := by
    change -((0 : ℕ) : ℚ) = 0
    rw [Nat.cast_zero, neg_zero]
  rw [sum, hzero, List.sum_eq_foldl]

theorem mean_exact (xs : List ℚ) : mean xs = exactMean xs := by
  rw [mean, sum_exact, exactMean, Multiset.sum_coe, Multiset.coe_card]
  rfl

theorem squaredDeviations_exact (xs : List ℚ) : squaredDeviations xs = exactSpread xs := by
  rw [squaredDeviations, sum_exact, mean_exact, exactSpread, Multiset.map_coe, Multiset.sum_coe]
  simp only [pow_two]

theorem populationVariance_exact (xs : List ℚ) :
    populationVariance xs = exactSpread xs / xs.length := by
  rw [populationVariance, squaredDeviations_exact]
  rfl

theorem sampleVariance_exact (xs : List ℚ) :
    sampleVariance xs = exactSpread xs / (xs.length - 1) := by
  have hone : Arithmetic.ofCount 1 = (1 : ℚ) := Nat.cast_one
  rw [sampleVariance, squaredDeviations_exact, hone]
  rfl

namespace Pivot

/-! ### One pass -/

theorem populationVariance_moments {xs : Multiset ℚ} (h : 0 < xs.card) :
    (moments xs).populationVariance = exactSpread xs / xs.card := if_pos h

theorem sampleVariance_moments {xs : Multiset ℚ} (h : 1 < xs.card) :
    (moments xs).sampleVariance = exactSpread xs / (xs.card - 1) := by
  rw [← Nat.cast_pred (Nat.zero_lt_of_lt h)]
  exact if_pos h

/-- An accumulator that has taken the numbers of a sample, in whatever order, holds the mean of the
sample and the variances that two passes over the sample give. -/
theorem ofList_variances_eq (xs ys : List ℚ) (hperm : ys.Perm xs) (hne : xs ≠ []) :
    (Accumulator.ofList ys : ExactAccumulator).mean = xs.sum / xs.length ∧
      (Accumulator.ofList ys : ExactAccumulator).populationVariance =
        Worksheet.populationVariance xs ∧
      (2 ≤ xs.length → (Accumulator.ofList ys : ExactAccumulator).sampleVariance =
        Worksheet.sampleVariance xs) := by
  have hpos : 0 < (xs : Multiset ℚ).card := List.length_pos_iff.mpr hne
  rw [ofList_eq_moments, Multiset.coe_eq_coe.mpr hperm, populationVariance_exact,
    sampleVariance_exact]
  refine ⟨?_, populationVariance_moments hpos, fun htwo ↦ sampleVariance_moments htwo⟩
  change exactMean xs = _
  rw [exactMean, Multiset.sum_coe, Multiset.coe_card]

/-- Four numbers, added from the greatest down. -/
theorem ofList_variances_descending :
    ([9, 6, 5 / 2, -1].Perm [5 / 2, -1, 9, (6 : ℚ)] ∧ [5 / 2, -1, 9, (6 : ℚ)] ≠ [] ∧
        2 ≤ [5 / 2, -1, 9, (6 : ℚ)].length) ∧
      (Accumulator.ofList [9, 6, 5 / 2, -1] : ExactAccumulator).populationVariance =
        Worksheet.populationVariance [5 / 2, -1, 9, (6 : ℚ)] ∧
      (Accumulator.ofList [9, 6, 5 / 2, -1] : ExactAccumulator).sampleVariance =
        Worksheet.sampleVariance [5 / 2, -1, 9, (6 : ℚ)] := by
  have hperm : [9, 6, 5 / 2, -1].Perm [5 / 2, -1, 9, (6 : ℚ)] := by decide +kernel
  have hne : [5 / 2, -1, 9, (6 : ℚ)] ≠ [] := List.cons_ne_nil _ _
  have htwo : 2 ≤ [5 / 2, -1, 9, (6 : ℚ)].length := by decide
  obtain ⟨-, hpopulation, hsample⟩ := ofList_variances_eq _ _ hperm hne
  exact ⟨⟨hperm, hne, htwo⟩, hpopulation, hsample htwo⟩

end Pivot

end Worksheet
