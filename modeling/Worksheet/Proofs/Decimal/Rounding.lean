import Mathlib.Algebra.Order.Field.Rat
import Worksheet.Proofs.Decimal.ExactValue

/-!
Rounding to the nearest double.

The rationals that round to a positive double form an interval around it (`RoundsTo`). Rounding
keeps a mantissa and two bits for what was shifted out of it; these describe an exact number
(`Represents`), and shifting halves the number. A number of the interval is rounded to the double
(`Renders.round_of_roundsTo`), and a number below the intervals of all doubles to zero
(`Renders.round_of_small`). The product and the quotient of two finite numbers are rounded from
their exact value (`rounds_mul`, `rounds_div`).
-/

set_option autoImplicit false
set_option relaxedAutoImplicit false

open Float.Model Float.Model.UnpackedFloat

namespace Worksheet.Decimal

/-! ### The exact number behind a mantissa and its residual bits -/

/-- The mantissa is the whole part of a number, and the bits compare its fraction with one half. -/
def Represents (em : ExtendedMantissa) (r : ℚ) : Prop :=
  match em with
  | ⟨m, false, false⟩ => r = m
  | ⟨m, false, true⟩ => m < r ∧ r < m + 1 / 2
  | ⟨m, true, false⟩ => r = m + 1 / 2
  | ⟨m, true, true⟩ => m + 1 / 2 < r ∧ r < m + 1

namespace Represents

variable {em : ExtendedMantissa} {r : ℚ}

theorem mantissa_le (h : Represents em r) : em.mantissa ≤ r := by
  obtain ⟨m, _ | _, _ | _⟩ := em
  · exact h.ge
  · exact h.1.le
  · change r = m + 1 / 2 at h
    change (m : ℚ) ≤ r
    linarith
  · have hlow := h.1
    change (m : ℚ) ≤ r
    linarith

theorem lt_mantissa_add_one (h : Represents em r) : r < em.mantissa + 1 := by
  obtain ⟨m, _ | _, _ | _⟩ := em
  · change r = m at h
    change r < m + 1
    linarith
  · have hhigh := h.2
    change r < m + 1
    linarith
  · change r = m + 1 / 2 at h
    change r < m + 1
    linarith
  · exact h.2

theorem shiftRightOne (h : Represents em r) : Represents em.shiftRightOne (r / 2) := by
  obtain ⟨m, roundBit, stickyBit⟩ := em
  obtain ⟨k, hk⟩ := Nat.even_or_odd' m
  have hhalf : m / 2 = k := by omega
  unfold ExtendedMantissa.shiftRightOne
  dsimp only
  rw [hhalf]
  rcases hk with rfl | rfl
  · have hbit : (2 * k % 2 != 0) = false := by simp
    rw [hbit]
    cases roundBit <;> cases stickyBit <;>
      simp only [Represents, Bool.or_false, Bool.or_true] at h ⊢ <;> push_cast at h <;>
      first | constructor <;> linarith | linarith
  · have hbit : ((2 * k + 1) % 2 != 0) = true := by simp
    rw [hbit]
    cases roundBit <;> cases stickyBit <;>
      simp only [Represents, Bool.or_false, Bool.or_true] at h ⊢ <;> push_cast at h <;>
      first | constructor <;> linarith | linarith

theorem shiftRight (h : Represents em r) (k : Nat) : Represents (em >>> k) (r / 2 ^ k) := by
  induction k with
  | zero =>
    rw [pow_zero, div_one]
    exact h
  | succ k ih =>
    rw [pow_succ, ← div_div]
    exact ih.shiftRightOne

/-- The nearest whole number is the rounded mantissa; of two that are equally near, the even one. -/
theorem roundedMantissa_eq (h : Represents em r) {n : Nat} (hlow : n ≤ r + 1 / 2)
    (hhigh : r ≤ n + 1 / 2) (htie : ¬ Even n → n < r + 1 / 2 ∧ r < n + 1 / 2) :
    em.roundedMantissa = n := by
  obtain ⟨m, _ | _, _ | _⟩ := em
  · change r = m at h
    change m = n
    have hle : (n : ℚ) < m + 1 := by linarith
    have hge : (m : ℚ) < n + 1 := by linarith
    norm_cast at hle hge
    omega
  · obtain ⟨h₁, h₂⟩ := h
    change m = n
    have hle : (n : ℚ) < m + 1 := by linarith
    have hge : (m : ℚ) < n + 1 := by linarith
    norm_cast at hle hge
    omega
  · -- half way between `m` and `m + 1`
    change r = m + 1 / 2 at h
    change m + m % 2 = n
    have hle : (n : ℚ) ≤ m + 1 := by linarith
    have hge : (m : ℚ) ≤ n := by linarith
    norm_cast at hle hge
    have heven : Even n := by
      by_contra hodd
      obtain ⟨h₁, h₂⟩ := htie hodd
      have hlt : (n : ℚ) < m + 1 := by linarith
      have hgt : (m : ℚ) < n := by linarith
      norm_cast at hlt hgt
      omega
    obtain ⟨k, rfl⟩ := heven
    omega
  · obtain ⟨h₁, h₂⟩ := h
    change m + 1 = n
    have hle : (n : ℚ) < m + 2 := by linarith
    have hge : (m : ℚ) < n := by linarith
    norm_cast at hle hge
    omega

end Represents

theorem represents_exact (m : Nat) :
    Represents (ExtendedMantissa.ofMantissaAndAccuracy m .exact) m := rfl

/-- A quotient is described by its whole part and the comparison of its remainder. -/
theorem represents_div (a : Nat) {b : Nat} (hb : 0 < b) :
    Represents (ExtendedMantissa.ofMantissaAndAccuracy (a / b) (accuracyOfFraction (a % b) b))
      (a / b : ℚ) := by
  have hbq : (0 : ℚ) < b := by exact_mod_cast hb
  have hdivmod : (a : ℚ) = b * (a / b : Nat) + (a % b : Nat) := by
    exact_mod_cast (Nat.div_add_mod a b).symm
  have hmod : ((a % b : Nat) : ℚ) < b := by exact_mod_cast Nat.mod_lt a hb
  have hquotient : (a / b : ℚ) = (a / b : Nat) + (a % b : Nat) / b := by
    rw [hdivmod, add_div, mul_div_cancel_left₀ _ hbq.ne']
  rw [hquotient]
  unfold accuracyOfFraction
  by_cases hzero : a % b = 0
  · rw [if_pos hzero, hzero]
    change _ = _
    rw [Nat.cast_zero, zero_div, add_zero]
  · rw [if_neg hzero]
    have hpos : (0 : ℚ) < (a % b : Nat) := by exact_mod_cast Nat.pos_of_ne_zero hzero
    have hfraction : (0 : ℚ) < (a % b : Nat) / b := div_pos hpos hbq
    have hone : ((a % b : Nat) : ℚ) / b < 1 := (div_lt_one hbq).mpr hmod
    rcases lt_trichotomy (2 * (a % b)) b with hlt | heq | hgt
    · rw [compare_lt_iff_lt.mpr hlt]
      have hhalf : ((a % b : Nat) : ℚ) / b < 1 / 2 := by
        rw [div_lt_div_iff₀ hbq two_pos, one_mul, mul_comm]
        exact_mod_cast hlt
      exact ⟨by linarith, by linarith⟩
    · rw [compare_eq_iff_eq.mpr heq]
      have hhalf : ((a % b : Nat) : ℚ) / b = 1 / 2 := by
        rw [div_eq_div_iff hbq.ne' two_ne_zero, one_mul, mul_comm]
        exact_mod_cast heq
      change _ = _
      rw [hhalf]
    · rw [compare_gt_iff_gt.mpr hgt]
      have hhalf : 1 / 2 < ((a % b : Nat) : ℚ) / b := by
        rw [div_lt_div_iff₀ two_pos hbq, one_mul, mul_comm _ (2 : ℚ)]
        exact_mod_cast hgt
      exact ⟨by linarith, by linarith⟩

/-! ### The interval of a double -/

/-- A positive finite double as its significand and its exponent. -/
structure Canonical (m : Nat) (e : Int) : Prop where
  pos : 0 < m
  lt : m < 2 ^ 53
  le_exponent : -1074 ≤ e
  leading : 2 ^ 52 ≤ m ∨ e = -1074

/-- How far down the interval reaches, in quarters of a unit of the last place. -/
def quartersBelow (m : Nat) (e : Int) : Nat :=
  if m = 2 ^ 52 ∧ Dyadic.leastExponent < e then 1 else 2

/-- The rationals that round to `m * 2 ^ e`; the ends count for an even significand only. -/
structure RoundsTo (m : Nat) (e : Int) (q : ℚ) : Prop where
  low : (m - quartersBelow m e / 4) * 2 ^ e ≤ q
  high : q ≤ (m + 1 / 2) * 2 ^ e
  tie : ¬ Even m → (m - quartersBelow m e / 4) * 2 ^ e < q ∧ q < (m + 1 / 2) * 2 ^ e

theorem quartersBelow_le (m : Nat) (e : Int) : (quartersBelow m e : ℚ) ≤ 2 := by
  unfold quartersBelow
  split <;> norm_num

theorem quartersBelow_eq_two {m : Nat} {e : Int} (h : ¬ (m = 2 ^ 52 ∧ -1074 < e)) :
    quartersBelow m e = 2 := if_neg h

theorem quartersBelow_eq_one {m : Nat} {e : Int} (hm : m = 2 ^ 52) (he : -1074 < e) :
    quartersBelow m e = 1 := if_pos ⟨hm, he⟩

namespace RoundsTo

variable {m : Nat} {e : Int} {q : ℚ}

theorem half_low (h : RoundsTo m e q) : (m - 1 / 2) * 2 ^ e ≤ q := by
  refine le_trans (mul_le_mul_of_nonneg_right ?_ (by positivity)) h.low
  have := quartersBelow_le m e
  linarith

/-- Nothing but positive numbers rounds to a positive double. -/
theorem pos (h : RoundsTo m e q) (hm : 0 < m) : 0 < q := by
  have hone : (1 : ℚ) ≤ m := by exact_mod_cast hm
  exact (mul_pos (by linarith) (by positivity)).trans_le h.half_low

/-- The exponent that a number is rounded at is the exponent of the double, or the one below where
the number lies between a power of two and the place where the places get wider. -/
theorem exponent_eq (hcanonical : Canonical m e) (h : RoundsTo m e q) {t : Int} (ht : -1074 ≤ t)
    (hlt : q < 2 ^ (t + 53)) (hle : -1074 < t → 2 ^ (t + 52) ≤ q) :
    e = t ∨ (e = t + 1 ∧ m = 2 ^ 52) := by
  have hpos : (0 : ℚ) < 2 ^ e := by positivity
  have hm : (m : ℚ) + 1 ≤ 2 ^ 53 := by exact_mod_cast hcanonical.lt
  have hstep : ∀ k : Nat, (2 : ℚ) ^ (e + k) = 2 ^ k * 2 ^ e := fun k ↦ by
    rw [zpow_add₀ two_ne_zero, zpow_natCast, mul_comm]
  have hmono : ∀ a b : Int, a ≤ b → (2 : ℚ) ^ a ≤ 2 ^ b := fun a b hab ↦
    zpow_le_zpow_right₀ one_le_two hab
  rcases lt_trichotomy e t with hbelow | rfl | habove
  · exfalso
    have hq := hle (hcanonical.le_exponent.trans_lt hbelow)
    have hwide : (2 : ℚ) ^ 53 * 2 ^ e ≤ q := by
      rw [← hstep]
      exact (hmono _ _ (by omega)).trans hq
    have hnarrow : q < 2 ^ 53 * 2 ^ e := by
      refine h.high.trans_lt (mul_lt_mul_of_pos_right ?_ hpos)
      linarith
    linarith
  · exact Or.inl rfl
  · have hleading : 2 ^ 52 ≤ m := hcanonical.leading.resolve_right (by omega)
    have hmq : (2 : ℚ) ^ 52 ≤ m := by exact_mod_cast hleading
    have hqlt : q < 2 ^ 52 * 2 ^ e := by
      rw [← hstep]
      exact hlt.trans_le (hmono _ _ (by omega))
    have heq : m = 2 ^ 52 := by
      by_contra hne
      have hmore : (2 : ℚ) ^ 52 + 1 ≤ m := by exact_mod_cast (by omega : 2 ^ 52 + 1 ≤ m)
      have hlow := h.half_low
      have hscaled : (2 : ℚ) ^ 52 * 2 ^ e ≤ (m - 1 / 2) * 2 ^ e :=
        mul_le_mul_of_nonneg_right (by linarith) hpos.le
      linarith
    refine Or.inr ⟨?_, heq⟩
    by_contra hne
    have hqhalf : q < 2 ^ 51 * 2 ^ e := by
      rw [← hstep]
      exact hlt.trans_le (hmono _ _ (by omega))
    have hlow := h.half_low
    have hscaled : (2 : ℚ) ^ 51 * 2 ^ e ≤ (m - 1 / 2) * 2 ^ e := by
      refine mul_le_mul_of_nonneg_right ?_ hpos.le
      rw [heq]
      norm_num
    linarith

/-- Measured in units of its place, a number of the interval is at most one half away. -/
theorem scaled (h : RoundsTo m e q) :
    m ≤ q / 2 ^ e + 1 / 2 ∧ q / 2 ^ e ≤ m + 1 / 2 ∧
      (¬ Even m → m < q / 2 ^ e + 1 / 2 ∧ q / 2 ^ e < m + 1 / 2) := by
  have hpos : (0 : ℚ) < 2 ^ e := by positivity
  have hquarters := quartersBelow_le m e
  have hlow := (le_div_iff₀ hpos).mpr h.low
  refine ⟨by linarith, (div_le_iff₀ hpos).mpr h.high, fun hodd ↦ ?_⟩
  obtain ⟨hlow', hhigh'⟩ := h.tie hodd
  have hlow'' := (lt_div_iff₀ hpos).mpr hlow'
  exact ⟨by linarith, (div_lt_iff₀ hpos).mpr hhigh'⟩

end RoundsTo

/-! ### Rounding -/

theorem targetExponent_totalExponent (m : Nat) (e : Int) :
    Format.binary64.targetExponent (totalExponent m e) = max (m.log2 + e - 52) (-1074) := by
  change max ((m.log2 : Int) + 1 + e - 53) (-1074) = _
  omega

theorem shiftToExponent_eq (m : Nat) (e : Int) (accuracy : Accuracy) {t : Int} (h : e ≤ t) :
    shiftToExponent m e accuracy t =
      (ExtendedMantissa.ofMantissaAndAccuracy m accuracy >>> (t - e).toNat, t) := by
  unfold shiftToExponent
  exact Prod.ext rfl (by dsimp only; omega)

/-- A mantissa that rounding has carried to 54 digits is shifted once more. -/
theorem shiftToTargetExponent_of_carry {e : Int} (he : -1074 ≤ e) :
    shiftToTargetExponent Format.binary64 (2 ^ 53) e .exact = (⟨2 ^ 52, false, false⟩, e + 1) := by
  have htarget : Format.binary64.targetExponent (totalExponent (2 ^ 53) e) = e + 1 := by
    rw [targetExponent_totalExponent, Nat.log2_two_pow]
    omega
  unfold shiftToTargetExponent
  rw [htarget, shiftToExponent_eq _ _ _ (by omega), show (e + 1 - e).toNat = 1 by omega]
  rfl

theorem shiftToTargetExponent_of_canonical {m : Nat} {e : Int} (h : Canonical m e) :
    shiftToTargetExponent Format.binary64 m e .exact = (⟨m, false, false⟩, e) := by
  have hlog := log2_le_of_lt h.pos h.lt
  have htarget : Format.binary64.targetExponent (totalExponent m e) = e := by
    have hle := h.le_exponent
    rw [targetExponent_totalExponent]
    rcases h.leading with hleading | rfl
    · rw [log2_eq_of_bounds hleading h.lt]
      omega
    · omega
  unfold shiftToTargetExponent
  rw [htarget, shiftToExponent_eq _ _ _ le_rfl, Int.sub_self]
  rfl

/-- The exponent that a number is rounded at. -/
structure RoundedAt (q : ℚ) (t : Int) : Prop where
  least_le : -1074 ≤ t
  lt : q < 2 ^ (t + 53)
  le : -1074 < t → 2 ^ (t + 52) ≤ q

/-- A mantissa that stands for an exact number, with enough digits to round the number. -/
structure Renders (q : ℚ) (n : Nat) (k : Int) (accuracy : Accuracy) : Prop where
  represents : Represents (ExtendedMantissa.ofMantissaAndAccuracy n accuracy) (q / 2 ^ k)
  enough : 2 ^ 52 ≤ n ∨ k ≤ -1074

namespace Renders

variable {q : ℚ} {n : Nat} {k : Int} {accuracy : Accuracy}

theorem bounds (h : Renders q n k accuracy) : n * 2 ^ k ≤ q ∧ q < (n + 1) * 2 ^ k := by
  have hmantissa : (ExtendedMantissa.ofMantissaAndAccuracy n accuracy).mantissa = n := by
    obtain _ | _ | _ | _ := accuracy <;> rfl
  have hpos : (0 : ℚ) < 2 ^ k := by positivity
  have hlow := h.represents.mantissa_le
  have hhigh := h.represents.lt_mantissa_add_one
  rw [hmantissa] at hlow hhigh
  exact ⟨(le_div_iff₀ hpos).mp hlow, (div_lt_iff₀ hpos).mp hhigh⟩

/-- The first shift brings a number to the exponent that it is rounded at. -/
theorem exists_shift (h : Renders q n k accuracy) :
    ∃ em t, shiftToTargetExponent Format.binary64 n k accuracy = (em, t) ∧
      Represents em (q / 2 ^ t) ∧ RoundedAt q t := by
  obtain ⟨hlow, hhigh⟩ := h.bounds
  have hpos : (0 : ℚ) < 2 ^ k := by positivity
  obtain ⟨t, ht⟩ : ∃ t, t = max ((n.log2 : Int) + k - 52) (-1074) := ⟨_, rfl⟩
  have hkt : k ≤ t := by
    rcases h.enough with hn | hk
    · have hlog : 52 ≤ n.log2 := (Nat.le_log2 (by omega)).mpr hn
      omega
    · omega
  refine ⟨ExtendedMantissa.ofMantissaAndAccuracy n accuracy >>> (t - k).toNat, t, ?_, ?_,
    by omega, ?_, fun htlt ↦ ?_⟩
  · unfold shiftToTargetExponent
    rw [targetExponent_totalExponent, ← ht, shiftToExponent_eq _ _ _ hkt]
  · have hscale : q / 2 ^ t = q / 2 ^ k / 2 ^ (t - k).toNat := by
      rw [div_div, ← zpow_natCast (2 : ℚ) (t - k).toNat, Int.toNat_of_nonneg (by omega),
        ← zpow_add₀ two_ne_zero, add_sub_cancel]
    rw [hscale]
    exact h.represents.shiftRight _
  · have hn : (n : ℚ) + 1 ≤ 2 ^ (n.log2 + 1) := by exact_mod_cast Nat.lt_log2_self
    calc q < (n + 1) * 2 ^ k := hhigh
      _ ≤ 2 ^ (n.log2 + 1) * 2 ^ k := mul_le_mul_of_nonneg_right hn hpos.le
      _ = 2 ^ ((n.log2 + 1 : Nat) + k : Int) := by rw [zpow_add₀ two_ne_zero, zpow_natCast]
      _ ≤ 2 ^ (t + 53) := zpow_le_zpow_right₀ one_le_two (by omega)
  · have hn : n ≠ 0 := by
      rintro rfl
      rw [Nat.log2_zero] at ht
      have := h.enough
      omega
    have hlog : (2 : ℚ) ^ n.log2 ≤ n := by exact_mod_cast Nat.log2_self_le hn
    calc (2 : ℚ) ^ (t + 52) = 2 ^ ((n.log2 : Int) + k) := by
          rw [show t + 52 = (n.log2 : Int) + k by omega]
      _ = 2 ^ n.log2 * 2 ^ k := by rw [zpow_add₀ two_ne_zero, zpow_natCast]
      _ ≤ n * 2 ^ k := mul_le_mul_of_nonneg_right hlog hpos.le
      _ ≤ q := hlow

/-- A number of the interval of a double is rounded to the double. -/
theorem round_of_roundsTo (h : Renders q n k accuracy) (s : Sign) {m : Nat} {e : Int}
    (hcanonical : Canonical m e) (hq : RoundsTo m e q) :
    roundWithAccuracy Format.binary64 s n k accuracy = .finite s m e hcanonical.pos := by
  obtain ⟨em, t, hshift, hshifted, hleast, hlt, hle⟩ := h.exists_shift
  unfold roundWithAccuracy
  rw [hshift]
  dsimp only
  rcases hq.exponent_eq hcanonical hleast hlt hle with rfl | ⟨rfl, rfl⟩
  · obtain ⟨h₁, h₂, h₃⟩ := hq.scaled
    rw [hshifted.roundedMantissa_eq h₁ h₂ h₃, shiftToTargetExponent_of_canonical hcanonical]
    exact dif_neg hcanonical.pos.ne'
  · -- The number is less than half a place below `2 ^ 53`, where rounding carries.
    have hround : em.roundedMantissa = 2 ^ 53 := by
      have hpos : (0 : ℚ) < 2 ^ t := by positivity
      have hwide : q / 2 ^ t < 2 ^ 53 := by
        rw [div_lt_iff₀ hpos, ← zpow_natCast (2 : ℚ) 53, ← zpow_add₀ two_ne_zero, add_comm]
        exact hlt
      have hclose : (2 : ℚ) ^ 53 - 1 / 2 ≤ q / 2 ^ t := by
        have hlow := hq.low
        rw [quartersBelow_eq_one rfl (by omega), zpow_add₀ two_ne_zero, zpow_one] at hlow
        rw [le_div_iff₀ hpos]
        refine le_trans (le_of_eq ?_) hlow
        push_cast
        ring
      refine hshifted.roundedMantissa_eq ?_ ?_ fun hodd ↦ absurd ⟨2 ^ 52, by norm_num⟩ hodd
      · push_cast
        linarith
      · push_cast
        linarith
    rw [hround, shiftToTargetExponent_of_carry (by omega)]
    rfl

/-- A number of at most half the least double is rounded to zero. -/
theorem round_of_small (h : Renders q n k accuracy) (s : Sign) (hq : q ≤ 2 ^ (-1075 : Int)) :
    roundWithAccuracy Format.binary64 s n k accuracy = .zero s := by
  obtain ⟨em, t, hshift, hshifted, hleast, -, hle⟩ := h.exists_shift
  obtain rfl : t = -1074 := by
    by_contra hne
    have hlarge : (2 : ℚ) ^ (-1075 : Int) < 2 ^ (t + 52) :=
      zpow_lt_zpow_right₀ one_lt_two (by omega)
    exact (hlarge.trans_le ((hle (by omega)).trans hq)).false
  have hnonneg : 0 ≤ q := (by positivity : (0 : ℚ) ≤ n * 2 ^ k).trans h.bounds.1
  have hhalf : q / 2 ^ (-1074 : Int) ≤ 1 / 2 := by
    rw [div_le_iff₀ (by positivity), one_div, ← zpow_neg_one, ← zpow_add₀ two_ne_zero,
      show (-1 : Int) + -1074 = -1075 from rfl]
    exact hq
  have hround : em.roundedMantissa = 0 := by
    have hscaled : 0 ≤ q / 2 ^ (-1074 : Int) := by positivity
    generalize q / 2 ^ (-1074 : Int) = r at *
    refine hshifted.roundedMantissa_eq ?_ ?_ fun hodd ↦ absurd ⟨0, rfl⟩ hodd
    · push_cast
      linarith
    · push_cast
      linarith
  unfold roundWithAccuracy
  rw [hshift]
  dsimp only
  rw [hround]
  rfl

end Renders

/-! ### Products and quotients -/

/-- The outcome of an operation whose exact result is a given number, but for the sign. -/
def Rounds (u : UnpackedFloat) (s : Sign) (q : ℚ) : Prop :=
  ∃ n k accuracy, u = roundWithAccuracy Format.binary64 s n k accuracy ∧ Renders q n k accuracy

namespace Rounds

variable {s : Sign} {u : UnpackedFloat} {q : ℚ}

theorem eq_of_roundsTo (h : Rounds u s q) {m : Nat} {e : Int} (hcanonical : Canonical m e)
    (hq : RoundsTo m e q) : u = .finite s m e hcanonical.pos := by
  obtain ⟨n, k, accuracy, rfl, hrenders⟩ := h
  exact hrenders.round_of_roundsTo s hcanonical hq

theorem eq_zero_of_small (h : Rounds u s q) (hq : q ≤ 2 ^ (-1075 : Int)) : u = .zero s := by
  obtain ⟨n, k, accuracy, rfl, hrenders⟩ := h
  exact hrenders.round_of_small s hq

end Rounds

section

variable {s₁ s₂ : Sign} {m₁ m₂ : Nat} {e₁ e₂ : Int} (hpos₁ : 0 < m₁) (hpos₂ : 0 < m₂)

theorem rounds_mul (hm : 2 ^ 52 ≤ m₁ * m₂) :
    Rounds (UnpackedFloat.mul Format.binary64 (.finite s₁ m₁ e₁ hpos₁) (.finite s₂ m₂ e₂ hpos₂))
      (s₁ * s₂) (m₁ * 2 ^ e₁ * (m₂ * 2 ^ e₂)) := by
  refine ⟨m₁ * m₂, e₁ + e₂, .exact, rfl, ?_, Or.inl hm⟩
  have hvalue : (m₁ : ℚ) * 2 ^ e₁ * (m₂ * 2 ^ e₂) / 2 ^ (e₁ + e₂) = (m₁ * m₂ : Nat) := by
    rw [zpow_add₀ two_ne_zero]
    push_cast
    field_simp
  rw [hvalue]
  exact represents_exact (m₁ * m₂)

/-- The quotient is computed to 53 digits at least, unless it is at the least exponent. -/
theorem rounds_div :
    Rounds (UnpackedFloat.div Format.binary64 (.finite s₁ m₁ e₁ hpos₁) (.finite s₂ m₂ e₂ hpos₂))
      (s₁ / s₂) (m₁ * 2 ^ e₁ / (m₂ * 2 ^ e₂)) := by
  obtain ⟨t, ht⟩ : ∃ t, t = min (e₁ - e₂) (Format.binary64.targetExponent
      (totalExponent m₁ e₁ - totalExponent m₂ e₂)) := ⟨_, rfl⟩
  obtain ⟨k, hk⟩ : ∃ k, k = (e₁ - e₂ - t).toNat := ⟨_, rfl⟩
  have htarget : t = min (e₁ - e₂)
      (max ((m₁.log2 : Int) + 1 + e₁ - (m₂.log2 + 1 + e₂) - 53) (-1074)) := ht
  have hcore : divCore Format.binary64 m₁ e₁ m₂ e₂ =
      (m₁ * 2 ^ k / m₂, t, accuracyOfFraction (m₁ * 2 ^ k % m₂) m₂) := by
    unfold divCore
    rw [← ht]
    dsimp only
    rw [← hk, Nat.shiftLeft_eq]
  refine ⟨m₁ * 2 ^ k / m₂, t, accuracyOfFraction (m₁ * 2 ^ k % m₂) m₂, ?_, ?_, ?_⟩
  · change (match divCore Format.binary64 m₁ e₁ m₂ e₂ with
      | (m, e, acc) => roundWithAccuracy Format.binary64 (s₁ / s₂) m e acc) = _
    rw [hcore]
  · have hexponent : e₁ = k + t + e₂ := by omega
    have hvalue : (m₁ : ℚ) * 2 ^ e₁ / (m₂ * 2 ^ e₂) / 2 ^ t = (m₁ * 2 ^ k : Nat) / m₂ := by
      have hm₂ : (m₂ : ℚ) ≠ 0 := by exact_mod_cast hpos₂.ne'
      rw [hexponent, zpow_add₀ two_ne_zero, zpow_add₀ two_ne_zero, zpow_natCast]
      push_cast
      field_simp
    rw [hvalue]
    exact represents_div _ hpos₂
  · by_cases hleast : t ≤ -1074
    · exact Or.inr hleast
    left
    have hlog : m₂.log2 + 53 ≤ m₁.log2 + k := by omega
    rw [Nat.le_div_iff_mul_le hpos₂]
    calc 2 ^ 52 * m₂ ≤ 2 ^ 52 * 2 ^ (m₂.log2 + 1) :=
          Nat.mul_le_mul_left _ (Nat.lt_log2_self).le
      _ = 2 ^ (m₂.log2 + 53) := by rw [← pow_add]; congr 1; omega
      _ ≤ 2 ^ (m₁.log2 + k) := Nat.pow_le_pow_right two_pos hlog
      _ = 2 ^ m₁.log2 * 2 ^ k := pow_add _ _ _
      _ ≤ m₁ * 2 ^ k := Nat.mul_le_mul_right _ (Nat.log2_self_le hpos₁.ne')

end

end Worksheet.Decimal
