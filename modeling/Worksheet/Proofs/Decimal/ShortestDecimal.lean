import Mathlib.Data.Nat.Cast.Order.Field
import Worksheet.Decimal.Shortest
import Worksheet.Proofs.Decimal.Rounding

/-!
The shortest decimal rounds to its double.

The interval that the search for decimals works with is the interval of rationals that round to the
double (`covers_iff`). A grid of 17 significant digits is finer than the interval, so the search
always ends on a decimal of the interval (`roundsTo_shortest`).
-/

set_option autoImplicit false
set_option relaxedAutoImplicit false

namespace Worksheet.Decimal

theorem zpow_eq_div {b : ℚ} (hb : b ≠ 0) (k : Int) : b ^ k = b ^ k.toNat / b ^ (-k).toNat := by
  rw [eq_div_iff (pow_ne_zero _ hb), ← zpow_natCast, ← zpow_natCast, ← zpow_add₀ hb]
  congr 1
  omega

namespace Rounding

variable {d : Dyadic}

theorem denominator_pos (d : Dyadic) : 0 < (ofDyadic d).denominator := Nat.pow_pos Nat.two_pos

/-- The numbers of the interval over the common denominator. -/
theorem quarters_mul_scale (a : Nat) (d : Dyadic) :
    ((a * Nat.pow 2 (d.exponent - 2).toNat : Nat) : ℚ) =
      a / 4 * 2 ^ d.exponent * (ofDyadic d).denominator := by
  have hscale : (2 : ℚ) ^ d.exponent =
      4 * (2 ^ (d.exponent - 2).toNat / 2 ^ (2 - d.exponent).toNat) := by
    have hfour : (2 : ℚ) ^ (2 : Int) = 4 := by norm_num
    rw [show 2 - d.exponent = -(d.exponent - 2) by omega, ← zpow_eq_div two_ne_zero,
      zpow_sub₀ two_ne_zero, hfour, mul_div_cancel₀ _ four_ne_zero]
  have hden : ((ofDyadic d).denominator : ℚ) = 2 ^ (2 - d.exponent).toNat := by
    simp [ofDyadic]
  rw [hden, hscale, Nat.pow_eq]
  push_cast
  field_simp

section

variable (a n : Nat) (k : Int)

/-- Comparing a point of a decimal grid with an end of the interval. -/
theorem compare_point (d : Dyadic) :
    (a * Nat.pow 2 (d.exponent - 2).toNat * Nat.pow 10 (-k).toNat ≤
        n * ((ofDyadic d).denominator * Nat.pow 10 k.toNat) ↔
      (a / 4 : ℚ) * 2 ^ d.exponent ≤ n * 10 ^ k) ∧
    (n * ((ofDyadic d).denominator * Nat.pow 10 k.toNat) ≤
        a * Nat.pow 2 (d.exponent - 2).toNat * Nat.pow 10 (-k).toNat ↔
      (n : ℚ) * 10 ^ k ≤ (a / 4 : ℚ) * 2 ^ d.exponent) := by
  have hden : (0 : ℚ) < (ofDyadic d).denominator := by exact_mod_cast denominator_pos d
  have hfactor : (0 : ℚ) < 10 ^ (-k).toNat := by positivity
  have hend : ((a * Nat.pow 2 (d.exponent - 2).toNat * Nat.pow 10 (-k).toNat : Nat) : ℚ) =
      a / 4 * 2 ^ d.exponent * ((ofDyadic d).denominator * 10 ^ (-k).toNat) := by
    rw [Nat.cast_mul, quarters_mul_scale, Nat.pow_eq]
    push_cast
    ring
  have hpoint : ((n * ((ofDyadic d).denominator * Nat.pow 10 k.toNat) : Nat) : ℚ) =
      n * 10 ^ k * ((ofDyadic d).denominator * 10 ^ (-k).toNat) := by
    rw [zpow_eq_div (by norm_num : (10 : ℚ) ≠ 0) k, Nat.pow_eq]
    push_cast
    field_simp
  constructor
  · rw [← Nat.cast_le (α := ℚ), hend, hpoint, mul_le_mul_iff_left₀ (mul_pos hden hfactor)]
  · rw [← Nat.cast_le (α := ℚ), hend, hpoint, mul_le_mul_iff_left₀ (mul_pos hden hfactor)]

end

/-- The last point of a decimal grid that is not above the value. -/
def pointBelow (r : Rounding) (k : Int) : Nat :=
  r.value * Nat.pow 10 (-k).toNat / (r.denominator * Nat.pow 10 k.toNat)

theorem pointBelow_bounds (r : Rounding) (k : Int) (hden : 0 < r.denominator) :
    r.pointBelow k * (10 : ℚ) ^ k ≤ r.value / r.denominator ∧
      (r.value : ℚ) / r.denominator < (r.pointBelow k + 1) * 10 ^ k := by
  unfold pointBelow
  obtain ⟨value, hvalue⟩ : ∃ v, v = r.value * Nat.pow 10 (-k).toNat := ⟨_, rfl⟩
  obtain ⟨unit, hunit⟩ : ∃ u, u = r.denominator * Nat.pow 10 k.toNat := ⟨_, rfl⟩
  rw [← hvalue, ← hunit]
  have hunitPos : 0 < unit := hunit ▸ Nat.mul_pos hden (Nat.pow_pos (by decide))
  have hlow : value / unit * unit ≤ value := Nat.div_mul_le_self value unit
  have hhigh : value < (value / unit + 1) * unit := by
    rw [mul_comm]
    exact Nat.lt_mul_div_succ value hunitPos
  have hdenq : (0 : ℚ) < r.denominator := by exact_mod_cast hden
  have hscale : (0 : ℚ) < r.denominator * 10 ^ (-k).toNat := by positivity
  have hpow : (10 : ℚ) ^ k = unit / (r.denominator * 10 ^ (-k).toNat) := by
    rw [zpow_eq_div (by norm_num) k, hunit]
    push_cast [Nat.pow_eq]
    field_simp
  have hquotient : (r.value : ℚ) / r.denominator = value / (r.denominator * 10 ^ (-k).toNat) := by
    rw [hvalue]
    push_cast [Nat.pow_eq]
    field_simp
  rw [hpow, hquotient, mul_div_assoc', mul_div_assoc', div_le_div_iff_of_pos_right hscale,
    div_lt_div_iff_of_pos_right hscale]
  exact ⟨by exact_mod_cast hlow, by exact_mod_cast hhigh⟩

/-- A grid point is found when one of the two around the value reads back. -/
theorem isSome_nearest?_iff (r : Rounding) (tie : Tie) (k : Int) :
    (r.nearest? tie k).isSome = true ↔
      r.covers k (r.pointBelow k) = true ∨ r.covers k (r.pointBelow k + 1) = true := by
  unfold nearest?
  extract_lets value unit below
  have hpoint : r.pointBelow k = below := rfl
  rw [hpoint]
  split
  · next hbelow habove => simp [hbelow, habove]
  · next hbelow _ => simp [hbelow]
  · next _ habove => simp [habove]
  · next hbelow _ =>
    refine iff_of_true ?_ (Or.inl hbelow)
    split
    · rfl
    · rfl
    · cases tie <;> rfl

/-- A decimal is covered when it rounds to the double. -/
theorem covers_iff (hpos : 0 < d.significand) (k : Int) (n : Nat) :
    (ofDyadic d).covers k n = true ↔ RoundsTo d.significand d.exponent (n * 10 ^ k) := by
  obtain ⟨below, hbelow⟩ : ∃ b, b = quartersBelow d.significand d.exponent := ⟨_, rfl⟩
  have hle : below ≤ 4 * d.significand := by
    have hquarters := quartersBelow_le d.significand d.exponent
    rw [← hbelow] at hquarters
    norm_cast at hquarters
    omega
  obtain ⟨hlow, hlow'⟩ := compare_point (4 * d.significand - below) n k d
  obtain ⟨hhigh', hhigh⟩ := compare_point (4 * d.significand + 2) n k d
  have hlowEnd : (((4 * d.significand - below : Nat) : ℚ) / 4) * 2 ^ d.exponent =
      (d.significand - quartersBelow d.significand d.exponent / 4) * 2 ^ d.exponent := by
    rw [Nat.cast_sub hle, hbelow]
    push_cast
    ring
  have hhighEnd : (((4 * d.significand + 2 : Nat) : ℚ) / 4) * 2 ^ d.exponent =
      (d.significand + 1 / 2) * 2 ^ d.exponent := by
    push_cast
    ring
  rw [hlowEnd] at hlow hlow'
  rw [hhighEnd] at hhigh hhigh'
  have hcovers : (ofDyadic d).covers k n =
      if d.significand % 2 = 0 then
        decide ((4 * d.significand - below) * Nat.pow 2 (d.exponent - 2).toNat *
          Nat.pow 10 (-k).toNat ≤ n * ((ofDyadic d).denominator * Nat.pow 10 k.toNat)) &&
        decide (n * ((ofDyadic d).denominator * Nat.pow 10 k.toNat) ≤
          (4 * d.significand + 2) * Nat.pow 2 (d.exponent - 2).toNat * Nat.pow 10 (-k).toNat)
      else
        decide ((4 * d.significand - below) * Nat.pow 2 (d.exponent - 2).toNat *
          Nat.pow 10 (-k).toNat < n * ((ofDyadic d).denominator * Nat.pow 10 k.toNat)) &&
        decide (n * ((ofDyadic d).denominator * Nat.pow 10 k.toNat) <
          (4 * d.significand + 2) * Nat.pow 2 (d.exponent - 2).toNat * Nat.pow 10 (-k).toNat) := by
    rw [hbelow]
    unfold covers
    by_cases heven : d.significand % 2 = 0
    · rw [if_pos heven]
      exact if_pos (decide_eq_true heven)
    · rw [if_neg heven]
      exact if_neg (by simpa [ofDyadic] using heven)
  rw [hcovers]
  by_cases heven : d.significand % 2 = 0
  · rw [if_pos heven, Bool.and_eq_true, decide_eq_true_iff, decide_eq_true_iff, hlow, hhigh]
    exact ⟨fun h ↦ ⟨h.1, h.2, fun hodd ↦ absurd (Nat.even_iff.mpr heven) hodd⟩,
      fun h ↦ ⟨h.low, h.high⟩⟩
  · rw [if_neg heven, Bool.and_eq_true, decide_eq_true_iff, decide_eq_true_iff, ← not_le, ← not_le,
      hlow', hhigh', not_le, not_le]
    exact ⟨fun h ↦ ⟨h.1.le, h.2.le, fun _ ↦ h⟩, fun h ↦ h.tie fun h' ↦ heven (Nat.even_iff.mp h')⟩

end Rounding

/-! ### The position of the point -/

theorem lt_pow_digitCount (n : Nat) : n < 10 ^ digitCount n :=
  (Nat.length_toDigits_le_iff (by decide) Nat.length_toDigits_pos).mp le_rfl

theorem pow_le_of_digitCount {n c : Nat} (hn : 0 < n) (hc : digitCount n = c + 1) :
    10 ^ c ≤ n := by
  rcases Nat.eq_zero_or_pos c with rfl | hpos
  · exact hn
  · by_contra hlt
    have hle := (Nat.length_toDigits_le_iff (b := 10) (by decide) hpos).mpr (not_le.mp hlt)
    change digitCount n ≤ c at hle
    omega

namespace Rounding

/-- The value of a double has a digit at the place before the point position. -/
theorem pow_pointPosition_le (r : Rounding) (hvalue : 0 < r.value) (hden : 0 < r.denominator) :
    (10 : ℚ) ^ (r.pointPosition - 1) ≤ r.value / r.denominator := by
  have hdenq : (0 : ℚ) < r.denominator := by exact_mod_cast hden
  unfold pointPosition
  split
  · next hle =>
    have hquotient : 0 < r.value / r.denominator := Nat.div_pos hle hden
    obtain ⟨c, hc⟩ : ∃ c, digitCount (r.value / r.denominator) = c + 1 :=
      Nat.exists_eq_succ_of_ne_zero (Nat.length_toDigits_pos (b := 10)).ne'
    rw [hc, show ((c + 1 : Nat) : Int) - 1 = c by omega, zpow_natCast]
    have hpow : ((10 ^ c : Nat) : ℚ) ≤ (r.value / r.denominator : Nat) := by
      exact_mod_cast pow_le_of_digitCount hquotient hc
    push_cast at hpow
    exact hpow.trans Nat.cast_div_le
  · next hlt =>
    have hpow : r.denominator ≤ r.value * 10 ^ digitCount ((r.denominator - 1) / r.value) := by
      have hbound := lt_pow_digitCount ((r.denominator - 1) / r.value)
      rw [Nat.div_lt_iff_lt_mul hvalue, mul_comm] at hbound
      omega
    rw [show ∀ c : Nat, (1 - (c : Int)) - 1 = -(c : Int) by omega, zpow_neg, zpow_natCast,
      le_div_iff₀ hdenq, inv_mul_le_iff₀ (by positivity), mul_comm]
    exact_mod_cast hpow

theorem value_ofDyadic (d : Dyadic) :
    ((ofDyadic d).value : ℚ) / (ofDyadic d).denominator = d.significand * 2 ^ d.exponent := by
  have hden : ((ofDyadic d).denominator : ℚ) ≠ 0 := by exact_mod_cast (denominator_pos d).ne'
  rw [div_eq_iff hden]
  refine (quarters_mul_scale (4 * d.significand) d).trans ?_
  push_cast
  ring

end Rounding

/-! ### The search -/

/-- The significand and the exponent of a positive finite double. -/
abbrev Dyadic.IsCanonical (d : Dyadic) : Prop := Canonical d.significand d.exponent

/-- One of the two points of a fine grid around a double rounds to it. -/
theorem roundsTo_of_fine_grid {m : Nat} {e : Int} (h : Canonical m e) {u : ℚ}
    (hfine : u * 10 ^ 16 ≤ m * 2 ^ e) {a : Nat} (hlow : a * u ≤ m * 2 ^ e)
    (hhigh : m * 2 ^ e < (a + 1) * u) :
    RoundsTo m e (a * u) ∨ RoundsTo m e ((a + 1) * u) := by
  have hpos : (0 : ℚ) < 2 ^ e := by positivity
  -- The step of the grid is below the length of the interval.
  have hstep : u < (quartersBelow m e / 4 + 1 / 2) * 2 ^ e := by
    have hscaled : (m : ℚ) * 2 ^ e < (quartersBelow m e / 4 + 1 / 2) * 2 ^ e * 10 ^ 16 := by
      rw [mul_right_comm]
      refine mul_lt_mul_of_pos_right ?_ hpos
      by_cases hpower : m = 2 ^ 52 ∧ -1074 < e
      · rw [quartersBelow_eq_one hpower.1 hpower.2, hpower.1]
        norm_num
      · have hm : (m : ℚ) < 2 ^ 53 := by exact_mod_cast h.lt
        rw [quartersBelow_eq_two hpower]
        norm_num at hm ⊢
        linarith
    have hu16 : u * 10 ^ 16 < (quartersBelow m e / 4 + 1 / 2) * 2 ^ e * 10 ^ 16 :=
      hfine.trans_lt hscaled
    exact lt_of_mul_lt_mul_right hu16 (by positivity)
  have hquarters : (0 : ℚ) < quartersBelow m e := by
    unfold quartersBelow
    split <;> norm_num
  by_cases hnear : (m - quartersBelow m e / 4) * 2 ^ e < a * u
  · left
    have htop : a * u < (m + 1 / 2) * 2 ^ e := by linarith
    exact ⟨hnear.le, htop.le, fun _ ↦ ⟨hnear, htop⟩⟩
  · right
    have hbottom : (m - quartersBelow m e / 4) * 2 ^ e < (a + 1) * u := by
      have hdrop : (m - quartersBelow m e / 4 : ℚ) * 2 ^ e < m * 2 ^ e :=
        mul_lt_mul_of_pos_right (by linarith) hpos
      linarith
    have htop : (a + 1) * u < (m + 1 / 2) * 2 ^ e := by
      have hle := not_lt.mp hnear
      linarith
    exact ⟨hbottom.le, htop.le, fun _ ↦ ⟨hbottom, htop⟩⟩

section

variable {d : Dyadic} (h : d.IsCanonical)

include h

/-- Seventeen significant digits are enough. -/
theorem nearest?_isSome (tie : Tie) :
    ((Rounding.ofDyadic d).nearest? tie ((Rounding.ofDyadic d).pointPosition - 17)).isSome := by
  obtain ⟨k, hk⟩ : ∃ k, k = (Rounding.ofDyadic d).pointPosition - 17 := ⟨_, rfl⟩
  have hden := Rounding.denominator_pos d
  have hdenq : (0 : ℚ) < (Rounding.ofDyadic d).denominator := by exact_mod_cast hden
  have hvalue := Rounding.value_ofDyadic d
  have hsignificand : (0 : ℚ) < d.significand := by exact_mod_cast h.pos
  have hvaluePos : 0 < (Rounding.ofDyadic d).value := by
    have hpos : (0 : ℚ) < (Rounding.ofDyadic d).value / (Rounding.ofDyadic d).denominator := by
      rw [hvalue]
      positivity
    exact_mod_cast (div_pos_iff_of_pos_right hdenq).mp hpos
  have hfine : (10 : ℚ) ^ k * 10 ^ 16 ≤ d.significand * 2 ^ d.exponent := by
    rw [← hvalue, ← zpow_natCast (10 : ℚ) 16, ← zpow_add₀ (by norm_num),
      show k + ((16 : Nat) : Int) = (Rounding.ofDyadic d).pointPosition - 1 by omega]
    exact (Rounding.ofDyadic d).pow_pointPosition_le hvaluePos hden
  obtain ⟨hlow, hhigh⟩ := (Rounding.ofDyadic d).pointBelow_bounds k hden
  rw [hvalue] at hlow hhigh
  have hrounds := roundsTo_of_fine_grid h hfine hlow hhigh
  rw [← hk, Rounding.isSome_nearest?_iff, Rounding.covers_iff h.pos, Rounding.covers_iff h.pos]
  rwa [Nat.cast_succ]

/-- The shortest decimal rounds to the double. -/
theorem roundsTo_shortest (tie : Tie) :
    RoundsTo d.significand d.exponent
      ((shortest tie d).digits * 10 ^ (shortest tie d).exponent) := by
  unfold shortest
  extract_lets r position found
  have hfound : found.isSome := by
    rw [List.findSome?_isSome_iff]
    refine ⟨16, by simp, ?_⟩
    rw [Option.isSome_map]
    exact nearest?_isSome h tie
  obtain ⟨s, hs⟩ := Option.isSome_iff_exists.mp hfound
  rw [hs, Option.getD_some]
  obtain ⟨n, -, hn⟩ := List.exists_of_findSome?_eq_some hs
  obtain ⟨digits, hdigits, rfl⟩ := Option.map_eq_some_iff.mp hn
  have hcovers := Rounding.nearest?_covers _ _ _ _ hdigits
  have hrounds := (Rounding.covers_iff h.pos _ digits).mp hcovers
  unfold Scaled.carry
  split
  · next hten =>
    dsimp only at hten
    rw [hten] at hrounds
    dsimp only
    rw [zpow_add₀ (by norm_num), zpow_one, Nat.cast_one, one_mul, mul_comm]
    exact hrounds
  · exact hrounds

end

end Worksheet.Decimal
