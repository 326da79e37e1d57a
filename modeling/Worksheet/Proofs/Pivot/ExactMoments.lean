import Mathlib.Algebra.BigOperators.Ring.Multiset
import Mathlib.Algebra.Order.Field.Rat
import Mathlib.Data.Multiset.Lattice
import Mathlib.Order.WithBot
import Mathlib.Tactic.FieldSimp
import Mathlib.Tactic.Positivity
import Mathlib.Tactic.Ring
import Worksheet.Pivot.Accumulator

/-!
Accumulators of exact numbers.

On rational numbers, with counts that do not wrap around, the order of the operations decides
nothing, and an accumulator has a closed form: `moments` reads count, extremes, sum, product, mean
and spread off the numbers as a multiset. Adding a number is merging with the moments of that number
(`add_eq_merge_singleton`), merging moments adds the multisets (`merge_moments`), and so an
accumulator that is filled number by number holds the moments of its numbers (`ofList_eq_moments`).
-/

set_option autoImplicit false
set_option relaxedAutoImplicit false

namespace Worksheet.Pivot

/-- The rational numbers between two bounds, the extremes of no numbers. -/
abbrev Bounded := WithBot (WithTop ℚ)

instance : Arithmetic ℚ where
  ofCount n := n

instance : Extremes Bounded ℚ where
  top := ⊤
  bottom := ⊥
  ofNumber x := ((x : WithTop ℚ) : Bounded)
  lower := min
  upper := max

instance : Counter ℕ where
  ofNat n := n
  toNat n := n
  ofNat_add _ _ := rfl

@[simp] theorem counterOfNat_nat (n : ℕ) : (Counter.ofNat n : ℕ) = n := rfl

@[simp] theorem counterToNat_nat (n : ℕ) : Counter.toNat n = n := rfl

abbrev ExactAccumulator := Accumulator ℚ Bounded ℕ

/-- The mean of exact numbers; of no numbers it is zero. -/
def exactMean (xs : Multiset ℚ) : ℚ := xs.sum / xs.card

/-- The sum of the squared distances to the mean. -/
def exactSpread (xs : Multiset ℚ) : ℚ := (xs.map fun x ↦ (x - exactMean xs) ^ 2).sum

/-- The accumulator of exact numbers in closed form. -/
def moments (xs : Multiset ℚ) : ExactAccumulator where
  count := xs.card
  numbers := xs.card
  min := (xs.map (Extremes.ofNumber (ε := Bounded))).inf
  max := (xs.map (Extremes.ofNumber (ε := Bounded))).sup
  sum := xs.sum
  product := xs.prod
  mean := exactMean xs
  spread := exactSpread xs
  error := none
  calculated := false

/-! ### Mean and spread of two samples -/

theorem card_mul_exactMean (xs : Multiset ℚ) : (xs.card : ℚ) * exactMean xs = xs.sum := by
  unfold exactMean
  by_cases h : xs.card = 0
  · rw [Multiset.card_eq_zero.mp h]
    simp
  · have hcard : (xs.card : ℚ) ≠ 0 := Nat.cast_ne_zero.mpr h
    field_simp

/-- Squared distances to any centre, from the sum of the squares and the sum. -/
theorem sum_map_sub_sq (xs : Multiset ℚ) (centre : ℚ) :
    (xs.map fun x ↦ (x - centre) ^ 2).sum =
      (xs.map fun x ↦ x ^ 2).sum - 2 * centre * xs.sum + xs.card * centre ^ 2 := by
  induction xs using Multiset.induction_on with
  | empty => simp
  | cons x xs ih =>
    simp only [Multiset.map_cons, Multiset.sum_cons, Multiset.card_cons, ih]
    push_cast
    ring

theorem exactSpread_eq (xs : Multiset ℚ) :
    exactSpread xs = (xs.map fun x ↦ x ^ 2).sum - xs.card * exactMean xs ^ 2 := by
  unfold exactSpread
  rw [sum_map_sub_sq, ← card_mul_exactMean xs]
  ring

/-- The mean of two samples together: the first mean moves by the share of the second sample. -/
theorem exactMean_add (xs ys : Multiset ℚ) (h : 0 < xs.card + ys.card) :
    exactMean (xs + ys) =
      exactMean xs + (exactMean ys - exactMean xs) * ys.card / (xs.card + ys.card : ℕ) := by
  have hcard : ((xs.card + ys.card : ℕ) : ℚ) ≠ 0 := Nat.cast_ne_zero.mpr h.ne'
  rw [exactMean, Multiset.sum_add, ← card_mul_exactMean xs, ← card_mul_exactMean ys,
    Multiset.card_add]
  field_simp
  push_cast
  ring

/-- The spread of two samples together: between the samples it grows by the squared distance of
their means. -/
theorem exactSpread_add (xs ys : Multiset ℚ) (h : 0 < xs.card + ys.card) :
    exactSpread (xs + ys) =
      exactSpread xs + (exactSpread ys + (exactMean ys - exactMean xs) *
        (exactMean ys - exactMean xs) * xs.card * ys.card / (xs.card + ys.card : ℕ)) := by
  have hcard : ((xs.card : ℚ) + ys.card) ≠ 0 := by
    have hpos : ((xs.card + ys.card : ℕ) : ℚ) ≠ 0 := Nat.cast_ne_zero.mpr h.ne'
    push_cast at hpos
    exact hpos
  rw [exactSpread_eq, exactSpread_eq xs, exactSpread_eq ys, exactMean_add xs ys h,
    Multiset.map_add, Multiset.sum_add, Multiset.card_add]
  push_cast
  field_simp
  ring

/-! ### The closed form -/

@[simp] theorem exactMean_zero : exactMean 0 = 0 := by simp [exactMean]

@[simp] theorem exactSpread_zero : exactSpread 0 = 0 := by simp [exactSpread]

@[simp] theorem exactMean_singleton (x : ℚ) : exactMean {x} = x := by simp [exactMean]

@[simp] theorem exactSpread_singleton (x : ℚ) : exactSpread {x} = 0 := by simp [exactSpread]

theorem empty_eq_moments : (Accumulator.empty : ExactAccumulator) = moments 0 := by
  simp [Accumulator.empty, moments, Arithmetic.ofCount, Extremes.top, Extremes.bottom]

private theorem eq_zero_of_not_card_pos {xs ys : Multiset ℚ} (h : ¬ 0 < xs.card + ys.card) :
    xs = 0 ∧ ys = 0 :=
  ⟨Multiset.card_eq_zero.mp (by omega), Multiset.card_eq_zero.mp (by omega)⟩

theorem mean_merge_moments (xs ys : Multiset ℚ) :
    ((moments xs).merge (moments ys)).mean = exactMean (xs + ys) := by
  by_cases h : 0 < xs.card + ys.card
  · rw [exactMean_add xs ys h]
    exact if_pos h
  · obtain ⟨rfl, rfl⟩ := eq_zero_of_not_card_pos h
    rfl

theorem spread_merge_moments (xs ys : Multiset ℚ) :
    ((moments xs).merge (moments ys)).spread = exactSpread (xs + ys) := by
  by_cases h : 0 < xs.card + ys.card
  · rw [exactSpread_add xs ys h]
    exact if_pos h
  · obtain ⟨rfl, rfl⟩ := eq_zero_of_not_card_pos h
    rfl

/-- The moments of two samples merge into those of the samples together, also where one is empty. -/
theorem merge_moments (xs ys : Multiset ℚ) :
    (moments xs).merge (moments ys) = moments (xs + ys) := by
  have hmean := mean_merge_moments xs ys
  have hspread := spread_merge_moments xs ys
  simp only [Accumulator.merge, moments, Accumulator.mk.injEq, Multiset.card_add,
    Multiset.map_add, Multiset.inf_add, Multiset.sup_add, Multiset.sum_add, Multiset.prod_add,
    Option.none_or, Bool.or_false, true_and, and_true]
  exact ⟨rfl, rfl, hmean, hspread⟩

/-- To add a number is to merge with a sample of one, whatever the accumulator holds. -/
theorem add_eq_merge_singleton (s : ExactAccumulator) (x : ℚ) :
    s.add x = s.merge (moments {x}) := by
  have hcard : (s.numbers : ℚ) + 1 ≠ 0 := by positivity
  simp only [Accumulator.add, Accumulator.merge, moments, Accumulator.mk.injEq,
    Multiset.card_singleton, Multiset.map_singleton, Multiset.inf_singleton,
    Multiset.sup_singleton, Multiset.sum_singleton, Multiset.prod_singleton,
    Option.or_none, Bool.or_false, true_and, and_true, exactMean_singleton,
    exactSpread_singleton, counterOfNat_nat, counterToNat_nat, Nat.succ_pos, if_true,
    Arithmetic.ofCount]
  push_cast
  constructor
  · ring
  · field_simp
    ring

theorem extend_moments (xs : Multiset ℚ) (ys : List ℚ) :
    (moments xs).extend ys = moments (xs + ys) := by
  induction ys generalizing xs with
  | nil => simp [Accumulator.extend]
  | cons y ys ih =>
    change ((moments xs).add y).extend ys = _
    rw [add_eq_merge_singleton, merge_moments, ih, add_assoc, Multiset.singleton_add,
      Multiset.cons_coe]

theorem ofList_eq_moments (xs : List ℚ) :
    (Accumulator.ofList xs : ExactAccumulator) = moments xs := by
  rw [Accumulator.ofList, empty_eq_moments, extend_moments, zero_add]

end Worksheet.Pivot
