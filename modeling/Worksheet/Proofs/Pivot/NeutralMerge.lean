import Mathlib.Tactic.MkIffOfInductiveProp
import Worksheet.Pivot.Accumulator
import Worksheet.Proofs.Decimal.NeutralOperands

/-!
Merging with an empty accumulator, on doubles.

Counts, extremes, sum, product, error and mark come out of a merge with an empty accumulator as
they went in. The mean and the spread are computed anew, and the computation is not neutral. In
either order the spread becomes NaN when the square of the mean overflows, as the overflow is
multiplied by the count of the empty part, a zero (`spread_merge_empty_beq_iff`,
`spread_empty_merge_beq_iff`). Behind an empty accumulator the mean is multiplied by the count and
divided by it again, which may round it to another double (`mean_empty_merge_beq_iff`). In no other
way does a merge fail to be neutral (`merge_empty_beq_iff`, `empty_merge_beq_iff`) while the count
is not zero; one number is enough for the overflow (`empty_not_neutral`).
-/

set_option autoImplicit false
set_option relaxedAutoImplicit false

namespace Worksheet.Pivot

open Worksheet.Decimal

/-! ### Extremes -/

section

variable {x : Float}

theorem lowerFloat_infinity (hx : x.isNaN = false) : lowerFloat x (1.0 / 0.0) = x := by
  rw [lowerFloat, hx, if_neg Bool.false_ne_true, if_neg (not_infinity_lt x)]

theorem infinity_lowerFloat (hx : x.isNaN = false) : lowerFloat (1.0 / 0.0) x = x := by
  have hinfinity : (1.0 / 0.0 : Float).isNaN = false := by decide +kernel
  rw [lowerFloat, hinfinity, if_neg Bool.false_ne_true]
  rcases lt_infinity_or_eq hx with hlt | heq
  · rw [if_pos hlt]
  · rw [if_neg (heq ▸ not_infinity_lt x)]
    exact heq.symm

theorem upperFloat_negInfinity (hx : x.isNaN = false) : upperFloat x (-1.0 / 0.0) = x := by
  rw [upperFloat, hx, if_neg Bool.false_ne_true, if_neg (not_lt_negInfinity x)]

theorem negInfinity_upperFloat (hx : x.isNaN = false) : upperFloat (-1.0 / 0.0) x = x := by
  have hinfinity : (-1.0 / 0.0 : Float).isNaN = false := by decide +kernel
  rw [upperFloat, hinfinity, if_neg Bool.false_ne_true]
  rcases negInfinity_lt_or_eq hx with hlt | heq
  · rw [if_pos hlt]
  · rw [if_neg (heq ▸ not_lt_negInfinity x)]
    exact heq.symm

theorem isNaN_lowerFloat (hx : x.isNaN = false) (y : Float) : (lowerFloat x y).isNaN = false := by
  rw [lowerFloat, hx, if_neg Bool.false_ne_true]
  split
  · next h => exact (isNaN_of_lt h).1
  · exact hx

theorem isNaN_upperFloat (hx : x.isNaN = false) (y : Float) : (upperFloat x y).isNaN = false := by
  rw [upperFloat, hx, if_neg Bool.false_ne_true]
  split
  · next h => exact (isNaN_of_lt h).2
  · exact hx

end

namespace Accumulator

theorem beq_iff (s t : MachineAccumulator) :
    (s == t) = true ↔
      s.count = t.count ∧ s.numbers = t.numbers ∧ (s.min == t.min) = true ∧
        (s.max == t.max) = true ∧ (s.sum == t.sum) = true ∧ (s.product == t.product) = true ∧
        (s.mean == t.mean) = true ∧ (s.spread == t.spread) = true ∧ s.error = t.error ∧
        s.calculated = t.calculated := by
  change instBEqAccumulator.beq s t = true ↔ _
  simp only [instBEqAccumulator.beq, Bool.and_eq_true, beq_iff_eq]

/-- Neither sum, product, mean nor spread has overflowed. -/
@[mk_iff]
structure FiniteMoments (s : MachineAccumulator) : Prop where
  sum : s.sum.isFinite = true
  product : s.product.isFinite = true
  mean : s.mean.isFinite = true
  spread : s.spread.isFinite = true

instance (s : MachineAccumulator) : Decidable s.FiniteMoments :=
  decidable_of_iff' _ (finiteMoments_iff s)

/-- The extremes are numbers or infinities, all else is finite. -/
structure Regular (s : MachineAccumulator) : Prop extends s.FiniteMoments where
  isNaN_min : s.min.isNaN = false
  isNaN_max : s.max.isNaN = false

theorem isZero_ofNat_zero : IsZero (Float.ofNat 0) := by
  change (Dyadic.ofFloat (Float.ofNat 0)).significand = 0
  decide +kernel

/-- Where there are numbers, the mean moves by the share of the second part. -/
theorem mean_merge_of_pos {s t : MachineAccumulator} {n : UInt64} (hn : s.numbers + t.numbers = n)
    (hpos : 0 < n.toNat) :
    (s.merge t).mean =
      s.mean + (t.mean - s.mean) * Float.ofNat t.numbers.toNat / Float.ofNat n.toNat := by
  subst hn
  exact if_pos hpos

theorem spread_merge_of_pos {s t : MachineAccumulator} {n : UInt64}
    (hn : s.numbers + t.numbers = n) (hpos : 0 < n.toNat) :
    (s.merge t).spread = s.spread + (t.spread + (t.mean - s.mean) * (t.mean - s.mean) *
      Float.ofNat s.numbers.toNat * Float.ofNat t.numbers.toNat / Float.ofNat n.toNat) := by
  subst hn
  exact if_pos hpos

section

variable {s : MachineAccumulator} (hs : s.Regular)

include hs

theorem beq_of_moments {t : MachineAccumulator} (hcount : t.count = s.count)
    (hnumbers : t.numbers = s.numbers) (hmin : t.min = s.min) (hmax : t.max = s.max)
    (hsum : (t.sum == s.sum) = true) (hproduct : t.product = s.product)
    (herror : t.error = s.error) (hcalculated : t.calculated = s.calculated) :
    (t == s) = true ↔ (t.mean == s.mean) = true ∧ (t.spread == s.spread) = true := by
  rw [beq_iff, hmin, hmax, hproduct, Decimal.beq_self_iff, Decimal.beq_self_iff,
    Decimal.beq_self_iff]
  constructor
  · rintro ⟨-, -, -, -, -, -, hmean, hspread, -, -⟩
    exact ⟨hmean, hspread⟩
  · rintro ⟨hmean, hspread⟩
    exact ⟨hcount, hnumbers, hs.isNaN_min, hs.isNaN_max, hsum, isNaN_of_isFinite hs.product,
      hmean, hspread, herror, hcalculated⟩

/-! ### In front of an empty accumulator -/

theorem merge_empty_beq_iff_moments :
    (s.merge empty == s) = true ↔
      ((s.merge empty).mean == s.mean) = true ∧ ((s.merge empty).spread == s.spread) = true := by
  have hsum : ((s.merge empty).sum == s.sum) = true :=
    (add_beq_iff_of_isZero _ _ isZero_ofNat_zero).mpr
      ((Decimal.beq_self_iff _).mpr (isNaN_of_isFinite hs.sum))
  exact beq_of_moments hs (UInt64.add_zero _) (UInt64.add_zero _)
    (lowerFloat_infinity hs.isNaN_min) (upperFloat_negInfinity hs.isNaN_max) hsum
    (floatMul_one (isNaN_of_isFinite hs.product)) Option.or_none (Bool.or_false _)

theorem mean_merge_empty (hpos : 0 < s.numbers.toNat) :
    ((s.merge empty).mean == s.mean) = true := by
  obtain ⟨hnan, hzero⟩ := ofNat_of_pos hpos
  have hmean : (s.merge empty).mean =
      s.mean + (Float.ofNat 0 - s.mean) * Float.ofNat 0 / Float.ofNat s.numbers.toNat :=
    mean_merge_of_pos (UInt64.add_zero s.numbers) hpos
  have hdelta := isFinite_sub_of_isZero isZero_ofNat_zero hs.mean
  have hmove := isZero_div (isZero_mul hdelta isZero_ofNat_zero) hnan hzero
  rw [hmean, add_beq_iff_of_isZero _ _ hmove, Decimal.beq_self_iff]
  exact isNaN_of_isFinite hs.mean

theorem spread_merge_empty (hpos : 0 < s.numbers.toNat) :
    (s.merge empty).spread = s.spread + (Float.ofNat 0 +
      s.mean * s.mean * Float.ofNat s.numbers.toNat * Float.ofNat 0 /
        Float.ofNat s.numbers.toNat) := by
  have hspread : (s.merge empty).spread = s.spread + (Float.ofNat 0 +
      (Float.ofNat 0 - s.mean) * (Float.ofNat 0 - s.mean) * Float.ofNat s.numbers.toNat *
        Float.ofNat 0 / Float.ofNat s.numbers.toNat) :=
    spread_merge_of_pos (UInt64.add_zero s.numbers) hpos
  rw [hspread, sub_mul_self_of_isZero isZero_ofNat_zero hs.mean]

/-- An overflow of the square of the mean, or of it times the count, makes the spread NaN. -/
theorem spread_merge_empty_beq_iff (hpos : 0 < s.numbers.toNat) :
    ((s.merge empty).spread == s.spread) = true ↔
      (s.mean * s.mean * Float.ofNat s.numbers.toNat).isFinite = true := by
  obtain ⟨hnan, hzero⟩ := ofNat_of_pos hpos
  rw [spread_merge_empty hs hpos]
  cases hfinite : (s.mean * s.mean * Float.ofNat s.numbers.toNat).isFinite with
  | true =>
    have hshare := isZero_div (isZero_mul hfinite isZero_ofNat_zero) hnan hzero
    rw [add_beq_iff_of_isZero _ _ (isZero_add isZero_ofNat_zero hshare), Decimal.beq_self_iff]
    exact iff_of_true (isNaN_of_isFinite hs.spread) rfl
  | false =>
    have hshare := isNaN_div (isNaN_mul_of_isZero hfinite isZero_ofNat_zero)
      (Float.ofNat s.numbers.toNat)
    rw [floatAdd_comm s.spread, floatAdd_comm (Float.ofNat 0)]
    exact iff_of_false (not_beq_of_isNaN (isNaN_add (isNaN_add hshare _) _) _) Bool.false_ne_true

theorem merge_empty_beq_iff (hpos : 0 < s.numbers.toNat) :
    (s.merge empty == s) = true ↔
      (s.mean * s.mean * Float.ofNat s.numbers.toNat).isFinite = true := by
  rw [merge_empty_beq_iff_moments hs, spread_merge_empty_beq_iff hs hpos]
  exact and_iff_right (mean_merge_empty hs hpos)

/-! ### Behind an empty accumulator -/

theorem empty_merge_beq_iff_moments :
    (empty.merge s == s) = true ↔
      ((empty.merge s).mean == s.mean) = true ∧ ((empty.merge s).spread == s.spread) = true := by
  have hsum : ((empty.merge s).sum == s.sum) = true := by
    change (Float.ofNat 0 + s.sum == s.sum) = true
    rw [floatAdd_comm, add_beq_iff_of_isZero _ _ isZero_ofNat_zero, Decimal.beq_self_iff]
    exact isNaN_of_isFinite hs.sum
  have hproduct : (empty.merge s).product = s.product :=
    (floatMul_comm _ _).trans (floatMul_one (isNaN_of_isFinite hs.product))
  exact beq_of_moments hs (UInt64.zero_add _) (UInt64.zero_add _)
    (infinity_lowerFloat hs.isNaN_min) (negInfinity_upperFloat hs.isNaN_max) hsum hproduct
    Option.none_or (Bool.false_or _)

theorem mean_empty_merge (hpos : 0 < s.numbers.toNat) :
    (empty.merge s).mean =
      Float.ofNat 0 + s.mean * Float.ofNat s.numbers.toNat / Float.ofNat s.numbers.toNat := by
  have hmean : (empty.merge s).mean = Float.ofNat 0 +
      (s.mean - Float.ofNat 0) * Float.ofNat s.numbers.toNat / Float.ofNat s.numbers.toNat :=
    mean_merge_of_pos (UInt64.zero_add s.numbers) hpos
  have hdelta : s.mean - Float.ofNat 0 = s.mean := floatSub_zero (isNaN_of_isFinite hs.mean)
  rw [hmean, hdelta]

theorem spread_empty_merge (hpos : 0 < s.numbers.toNat) :
    (empty.merge s).spread = Float.ofNat 0 + (s.spread +
      s.mean * s.mean * Float.ofNat 0 * Float.ofNat s.numbers.toNat /
        Float.ofNat s.numbers.toNat) := by
  have hspread : (empty.merge s).spread = Float.ofNat 0 + (s.spread +
      (s.mean - Float.ofNat 0) * (s.mean - Float.ofNat 0) * Float.ofNat 0 *
        Float.ofNat s.numbers.toNat / Float.ofNat s.numbers.toNat) :=
    spread_merge_of_pos (UInt64.zero_add s.numbers) hpos
  have hdelta : s.mean - Float.ofNat 0 = s.mean := floatSub_zero (isNaN_of_isFinite hs.mean)
  rw [hspread, hdelta]

theorem mean_empty_merge_beq_iff (hpos : 0 < s.numbers.toNat) :
    ((empty.merge s).mean == s.mean) = true ↔
      (s.mean * Float.ofNat s.numbers.toNat / Float.ofNat s.numbers.toNat == s.mean) = true := by
  rw [mean_empty_merge hs hpos, floatAdd_comm, add_beq_iff_of_isZero _ _ isZero_ofNat_zero]

theorem spread_empty_merge_beq_iff (hpos : 0 < s.numbers.toNat)
    (hn : (Float.ofNat s.numbers.toNat).isFinite = true) :
    ((empty.merge s).spread == s.spread) = true ↔ (s.mean * s.mean).isFinite = true := by
  obtain ⟨hnan, hzero⟩ := ofNat_of_pos hpos
  rw [spread_empty_merge hs hpos, floatAdd_comm, add_beq_iff_of_isZero _ _ isZero_ofNat_zero]
  cases hfinite : (s.mean * s.mean).isFinite with
  | true =>
    have hshare := isZero_mul hn (isZero_mul hfinite isZero_ofNat_zero)
    rw [floatMul_comm] at hshare
    rw [add_beq_iff_of_isZero _ _ (isZero_div hshare hnan hzero), Decimal.beq_self_iff]
    exact iff_of_true (isNaN_of_isFinite hs.spread) rfl
  | false =>
    have hshare := isNaN_mul (isNaN_mul_of_isZero hfinite isZero_ofNat_zero)
      (Float.ofNat s.numbers.toNat)
    rw [floatAdd_comm s.spread]
    exact iff_of_false (not_beq_of_isNaN (isNaN_add (isNaN_div hshare _) _) _) Bool.false_ne_true

theorem empty_merge_beq_iff (hpos : 0 < s.numbers.toNat) :
    (empty.merge s == s) = true ↔
      (s.mean * s.mean).isFinite = true ∧
        (s.mean * Float.ofNat s.numbers.toNat / Float.ofNat s.numbers.toNat == s.mean) = true := by
  rw [empty_merge_beq_iff_moments hs, mean_empty_merge_beq_iff hs hpos]
  have hn (hmean : (s.mean * Float.ofNat s.numbers.toNat / Float.ofNat s.numbers.toNat ==
      s.mean) = true) : (Float.ofNat s.numbers.toNat).isFinite = true := by
    by_contra hinfinite
    rw [Bool.not_eq_true] at hinfinite
    exact not_beq_of_isNaN (isNaN_mul_div_of_not_finite hinfinite s.mean) _ hmean
  constructor
  · rintro ⟨hmean, hspread⟩
    exact ⟨(spread_empty_merge_beq_iff hs hpos (hn hmean)).mp hspread, hmean⟩
  · rintro ⟨hsquare, hmean⟩
    exact ⟨hmean, (spread_empty_merge_beq_iff hs hpos (hn hmean)).mpr hsquare⟩

/-! ### A count of zero -/

theorem merge_empty_beq_of_numbers_eq_zero (hzero : s.numbers = 0) :
    (s.merge empty == s) = true := by
  have hnone : Counter.toNat (s.numbers + (empty : MachineAccumulator).numbers) = 0 := by
    rw [hzero]
    rfl
  rw [merge_empty_beq_iff_moments hs, mean_merge_of_no_number _ _ hnone,
    spread_merge_of_no_number _ _ hnone, Decimal.beq_self_iff, Decimal.beq_self_iff]
  exact ⟨isNaN_of_isFinite hs.mean, isNaN_of_isFinite hs.spread⟩

/-- Mean and spread are then those of the empty accumulator. -/
theorem empty_merge_beq_iff_of_numbers_eq_zero (hzero : s.numbers = 0) :
    (empty.merge s == s) = true ↔ (0.0 == s.mean) = true ∧ (0.0 == s.spread) = true := by
  have hnone : Counter.toNat ((empty : MachineAccumulator).numbers + s.numbers) = 0 := by
    rw [hzero]
    rfl
  rw [empty_merge_beq_iff_moments hs, mean_merge_of_no_number _ _ hnone,
    spread_merge_of_no_number _ _ hnone]
  rfl

end

/-! ### Accumulators of numbers -/

theorem isNaN_extremes_extend (s : MachineAccumulator) (xs : List Float)
    (hmin : s.min.isNaN = false) (hmax : s.max.isNaN = false) :
    (s.extend xs).min.isNaN = false ∧ (s.extend xs).max.isNaN = false := by
  induction xs generalizing s with
  | nil => exact ⟨hmin, hmax⟩
  | cons x xs ih => exact ih (s.add x) (isNaN_lowerFloat hmin x) (isNaN_upperFloat hmax x)

theorem regular_ofList {s : MachineAccumulator} {xs : List Float} (hs : s = ofList xs)
    (h : s.FiniteMoments) : s.Regular := by
  subst hs
  obtain ⟨hmin, hmax⟩ := isNaN_extremes_extend empty xs (by decide +kernel) (by decide +kernel)
  exact ⟨h, hmin, hmax⟩

/-- The accumulator of some numbers comes out of a merge with an empty one behind it as it was
exactly when the square of the mean times the count does not overflow, and out of a merge with an
empty one in front of it exactly when the square does not overflow and the mean, multiplied by the
count and divided by it, is the mean again. Where the count is zero, as it is of no numbers, the
accumulator in front gives mean and spread. -/
theorem empty_neutral_iff (s : MachineAccumulator) (xs : List Float) (hs : s = ofList xs)
    (h : s.FiniteMoments) :
    ((s.merge empty == s) = true ↔
        s.numbers = 0 ∨ (s.mean * s.mean * Float.ofNat s.numbers.toNat).isFinite = true) ∧
      ((empty.merge s == s) = true ↔
        if s.numbers = 0 then (0.0 == s.mean) = true ∧ (0.0 == s.spread) = true
        else (s.mean * s.mean).isFinite = true ∧
          (s.mean * Float.ofNat s.numbers.toNat / Float.ofNat s.numbers.toNat == s.mean) =
            true) := by
  have hregular := regular_ofList hs h
  by_cases hzero : s.numbers = 0
  · rw [if_pos hzero]
    exact ⟨iff_of_true (merge_empty_beq_of_numbers_eq_zero hregular hzero) (Or.inl hzero),
      empty_merge_beq_iff_of_numbers_eq_zero hregular hzero⟩
  · have hpos : 0 < s.numbers.toNat := Nat.pos_of_ne_zero fun h ↦ hzero (UInt64.toNat_inj.mp h)
    rw [if_neg hzero, merge_empty_beq_iff hregular hpos, empty_merge_beq_iff hregular hpos]
    exact ⟨(or_iff_right hzero).symm, Iff.rfl⟩

theorem empty_neutral_three_numbers :
    FiniteMoments (ofList [1.1, 2.2, 3.3]) ∧
      ((ofList [1.1, 2.2, 3.3] : MachineAccumulator).merge empty ==
        ofList [1.1, 2.2, 3.3]) = true ∧
      (empty.merge (ofList [1.1, 2.2, 3.3] : MachineAccumulator) ==
        ofList [1.1, 2.2, 3.3]) = true := by
  have h : FiniteMoments (ofList [1.1, 2.2, 3.3]) := by decide +kernel
  obtain ⟨hback, hfront⟩ := empty_neutral_iff _ [1.1, 2.2, 3.3] rfl h
  exact ⟨h, hback.mpr (by decide +kernel), hfront.mpr (by decide +kernel)⟩

/-- The square of the mean overflows, and the spread becomes NaN. -/
theorem empty_not_neutral :
    ¬ ∀ (s : MachineAccumulator) (xs : List Float), s = ofList xs →
      (∀ x ∈ xs, x.isFinite = true) → s.FiniteMoments →
        (s.merge empty == s) = true ∧ (empty.merge s == s) = true := by
  intro h
  have hneutral := h (ofList [1e200]) [1e200] rfl (by decide +kernel) (by decide +kernel)
  exact absurd hneutral.1 (by decide +kernel)

-- No overflow here: the mean, times three and divided by three, is the double below it.
example : (empty.merge (ofList [1.4, 1.4, 1.4] : MachineAccumulator) ==
    ofList [1.4, 1.4, 1.4]) = false := by
  decide +kernel

end Accumulator

end Worksheet.Pivot
