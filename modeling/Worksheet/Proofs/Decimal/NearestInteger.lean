import Worksheet.Proofs.Decimal.FloatOrder
import Worksheet.Proofs.Json.StoredDoubles

/-!
The double nearest to an integer.

An integer is converted to the double nearest to it, of two that are equally near to the even one
(`isNearestToInt_iff`), and its decimal is read as the same double (`toFloat?_ofInt`). Integers of
at most 53 binary digits are doubles themselves, and no other integer is converted to one of those
(`floatOfInt_eq_iff`); from `2 ^ 53` on two integers can share a double.
-/

set_option autoImplicit false
set_option relaxedAutoImplicit false

open Float.Model Float.Model.UnpackedFloat

namespace Worksheet.Decimal

/-! ### Rounding an integer -/

def signOf (i : Int) : Sign := if i < 0 then .negative else .positive

theorem rounds_round (s : Sign) {n : Nat} (hn : 0 < n) :
    Rounds (UnpackedFloat.round Format.binary64 s n 0) s n := by
  have hamount : (0 - Format.binary64.targetExponent (totalExponent n 0)).toNat =
      52 - n.log2 := by
    rw [targetExponent_totalExponent]
    omega
  have hdecrease : decreaseExponent n 0 (Format.binary64.targetExponent (totalExponent n 0)) =
      (n * 2 ^ (52 - n.log2), -((52 - n.log2 : Nat) : Int)) := by
    unfold decreaseExponent
    dsimp only
    rw [hamount, Nat.shiftLeft_eq, Int.zero_sub]
  refine ⟨n * 2 ^ (52 - n.log2), -((52 - n.log2 : Nat) : Int), .exact, ?_, ?_, Or.inl ?_⟩
  · unfold UnpackedFloat.round
    dsimp only
    rw [hdecrease]
  · have hvalue : (n : ℚ) / 2 ^ (-((52 - n.log2 : Nat) : Int)) = (n * 2 ^ (52 - n.log2) : Nat) := by
      rw [zpow_neg, zpow_natCast, div_inv_eq_mul]
      push_cast
      rfl
    rw [hvalue]
    exact represents_exact _
  · calc 2 ^ 52 ≤ 2 ^ (n.log2 + (52 - n.log2)) := Nat.pow_le_pow_right two_pos (by omega)
      _ = 2 ^ n.log2 * 2 ^ (52 - n.log2) := pow_add _ _ _
      _ ≤ n * 2 ^ (52 - n.log2) := Nat.mul_le_mul_right _ (Nat.log2_self_le hn.ne')

/-- An integer other than zero is rounded by its magnitude, under its sign. -/
theorem rounds_ofInt {i : Int} (hi : i ≠ 0) :
    Rounds (UnpackedFloat.ofInt Format.binary64 i) (signOf i) i.natAbs := by
  have hpos : 0 < i.natAbs := Int.natAbs_pos.mpr hi
  unfold UnpackedFloat.ofInt UnpackedFloat.normalize signOf
  rcases lt_or_gt_of_ne hi with hneg | hgt
  · rw [compare_lt_iff_lt.mpr hneg, if_pos hneg]
    dsimp only
    rw [show (-i).toNat = i.natAbs by omega]
    exact rounds_round .negative hpos
  · rw [compare_gt_iff_gt.mpr hgt, if_neg (by omega)]
    dsimp only
    rw [show i.toNat = i.natAbs by omega]
    exact rounds_round .positive hpos

/-- The double of an integer has the significand and the exponent that its magnitude rounds to. -/
theorem unpack_floatOfInt_of_roundsTo {i : Int64} (hi : i.toInt ≠ 0) {m : Nat} {e : Int}
    (h : Canonical m e) (he : e ≤ 971) (hq : RoundsTo m e i.toInt.natAbs) :
    (floatOfInt i).toModel.unpack = .finite (signOf i.toInt) m e h.pos := by
  change UnpackedFloat.unpack Format.binary64
    (UnpackedFloat.pack Format.binary64 (UnpackedFloat.ofInt Format.binary64 i.toInt)) = _
  rw [(rounds_ofInt hi).eq_of_roundsTo h hq]
  exact unpack_pack_canonical _ h he

theorem natAbs_toInt_le (i : Int64) : i.toInt.natAbs ≤ 2 ^ 63 := by
  have hmin : -2 ^ 63 ≤ i.toInt := i.minValue_le_toInt
  have hmax : i.toInt ≤ 2 ^ 63 - 1 := i.toInt_le
  omega

/-- Every integer other than zero rounds to a finite double. -/
theorem exists_roundsTo_natAbs {i : Int64} (hi : i.toInt ≠ 0) :
    ∃ m e, Canonical m e ∧ e ≤ 971 ∧ RoundsTo m e i.toInt.natAbs := by
  have hone : (1 : ℚ) ≤ i.toInt.natAbs := by exact_mod_cast Int.natAbs_pos.mpr hi
  have hsmall : (2 : ℚ) ^ (-1075 : Int) < 1 := zpow_lt_one_of_neg₀ one_lt_two (by omega)
  obtain ⟨m, e, hcanonical, hrounds⟩ := exists_roundsTo (hsmall.trans_le hone)
  refine ⟨m, e, hcanonical, ?_, hrounds⟩
  by_contra hlarge
  have hoverflow := hrounds.overflowBound_le hcanonical (not_le.mp hlarge)
  have hbound : (i.toInt.natAbs : ℚ) ≤ 2 ^ 63 := by exact_mod_cast natAbs_toInt_le i
  have hlow : (2 : ℚ) ^ 63 < overflowBound := by
    have hpower : (2 : ℚ) ^ 63 ≤ 2 ^ (971 : Int) := by
      rw [← zpow_natCast]
      exact zpow_le_zpow_right₀ one_le_two (by norm_num)
    exact hpower.trans_lt (lt_mul_of_one_lt_left (by positivity) (by norm_num))
  linarith

/-! ### The nearest double -/

/-- The double nearest to an integer, of two that are equally near the even one. -/
def IsNearestToInt (i : Int) (x : Float) : Prop :=
  ∃ y, NearestDouble i.natAbs y ∧ (if i < 0 then -y else y) = x

theorem isNaN_floatOfInt (i : Int64) : (floatOfInt i).isNaN = false := by
  by_cases hi : i.toInt = 0
  · obtain rfl : i = 0 := Int64.toInt_inj.mp hi
    decide +kernel
  · obtain ⟨m, e, hcanonical, he, hrounds⟩ := exists_roundsTo_natAbs hi
    change (floatOfInt i).toModel.unpack.isNaN = false
    rw [unpack_floatOfInt_of_roundsTo hi hcanonical he hrounds]
    rfl

/-- The magnitude is converted, and then the sign is set. -/
theorem floatOfInt_eq_nearestFloat (i : Int64) :
    floatOfInt i =
      if i.toInt < 0 then -nearestFloat i.toInt.natAbs 0 else nearestFloat i.toInt.natAbs 0 := by
  by_cases hi : i.toInt = 0
  · obtain rfl : i = 0 := Int64.toInt_inj.mp hi
    decide +kernel
  · obtain ⟨m, e, hcanonical, he, hrounds⟩ := exists_roundsTo_natAbs hi
    have hunpack := unpack_floatOfInt_of_roundsTo hi hcanonical he hrounds
    have hpos : 0 < i.toInt.natAbs := Int.natAbs_pos.mpr hi
    rw [← mul_one (i.toInt.natAbs : ℚ), ← zpow_zero (10 : ℚ)] at hrounds
    have hnearest := unpack_nearestFloat hcanonical he hpos hrounds
    refine eq_of_unpack_eq (hunpack.trans ?_) (isNaN_floatOfInt i)
    unfold signOf
    by_cases hneg : i.toInt < 0
    · rw [if_pos hneg, if_pos hneg]
      exact (unpack_neg hcanonical he hnearest).symm
    · rw [if_neg hneg, if_neg hneg]
      exact hnearest.symm

/-- An integer is converted to the double nearest to it. -/
theorem isNearestToInt_iff (i : Int64) (x : Float) :
    IsNearestToInt i.toInt x ↔ floatOfInt i = x := by
  unfold IsNearestToInt
  rw [floatOfInt_eq_nearestFloat]
  have hnearest (y : Float) :
      NearestDouble i.toInt.natAbs y ↔ nearestFloat i.toInt.natAbs 0 = y := by
    rw [← nearestDouble_iff, zpow_zero, mul_one]
  simp only [hnearest]
  constructor
  · rintro ⟨y, rfl, h⟩
    exact h
  · exact fun h ↦ ⟨_, rfl, h⟩

/-- The decimal of an integer is read as the double nearest to it. -/
theorem toFloat?_ofInt (i : Int64) :
    (Numeral.ofInt i.toInt).toFloat? = some (floatOfInt i) := by
  have hmantissa : (Numeral.ofInt i.toInt).mantissa = i.toInt.natAbs := by
    unfold Numeral.mantissa Numeral.ofInt
    rw [List.append_nil]
    exact Nat.ofDigitChars_ten_toDigits
  have hpower : (Numeral.ofInt i.toInt).power = 0 := rfl
  rw [Numeral.toFloat?_of_storable (Numeral.storable_ofInt _), hmantissa, hpower,
    floatOfInt_eq_nearestFloat]
  simp only [Numeral.ofInt, decide_eq_true_eq]

/-! ### Integers that share a double -/

theorem exactValue_floatOfInt_of_roundsTo {i : Int64} (hi : i.toInt ≠ 0) {m : Nat} {e : Int}
    (h : Canonical m e) (he : e ≤ 971) (hq : RoundsTo m e i.toInt.natAbs) :
    exactValue (floatOfInt i) = if i.toInt < 0 then -(m * 2 ^ e : ℚ) else m * 2 ^ e := by
  rw [(exactValue_of_unpack (unpack_floatOfInt_of_roundsTo hi h he hq)).2, signOf]
  split
  · rw [Sign.apply, Int.cast_neg, Int.cast_natCast, neg_mul]
  · rw [Sign.apply, Int.cast_natCast]

/-- An integer of at most 53 binary digits is a double itself. -/
theorem exactValue_floatOfInt_of_natAbs_lt {i : Int64} (h : i.toInt.natAbs < 2 ^ 53) :
    exactValue (floatOfInt i) = i.toInt := by
  by_cases hi : i.toInt = 0
  · exact (exactValue_floatOfInt hi.ge (by omega)).2
  · obtain ⟨n, hn⟩ : ∃ n, n = i.toInt.natAbs := ⟨_, rfl⟩
    have hpos : 0 < n := hn ▸ Int.natAbs_pos.mpr hi
    obtain ⟨hle, hlt⟩ := normal_of_lt hpos (hn ▸ h)
    have hcanonical : Canonical (n * 2 ^ (52 - n.log2)) (-(52 - n.log2 : Nat)) :=
      ⟨by omega, hlt, by omega, Or.inl hle⟩
    have hrounds := roundsTo_self (n * 2 ^ (52 - n.log2)) (-(52 - n.log2 : Nat))
    have hvalue := value_toFloat n
    rw [hvalue, hn] at hrounds
    rw [exactValue_floatOfInt_of_roundsTo hi (hn ▸ hcanonical) (by omega) hrounds, ← hn, hvalue]
    split
    · next hneg =>
      have hcast : (i.toInt : ℚ) = -n := by exact_mod_cast (by omega : i.toInt = -(n : Int))
      exact hcast.symm
    · next hnonneg => exact_mod_cast (by omega : (n : Int) = i.toInt)

/-- A greater integer keeps its distance from those. -/
theorem le_abs_exactValue_floatOfInt {i : Int64} (h : 2 ^ 53 ≤ i.toInt.natAbs) :
    2 ^ 53 ≤ |exactValue (floatOfInt i)| := by
  have hi : i.toInt ≠ 0 := by omega
  obtain ⟨m, e, hcanonical, he, hrounds⟩ := exists_roundsTo_natAbs hi
  have hmagnitude : |exactValue (floatOfInt i)| = m * 2 ^ e := by
    have hnonneg : (0 : ℚ) ≤ m * 2 ^ e := by positivity
    rw [exactValue_floatOfInt_of_roundsTo hi hcanonical he hrounds]
    split
    · rw [abs_neg, abs_of_nonneg hnonneg]
    · exact abs_of_nonneg hnonneg
  rw [hmagnitude]
  by_contra hless
  -- The next double is at most `2 ^ 53`, and the integer would be closer to it.
  have hbound : ((2 ^ 52 : Nat) : ℚ) * 2 ^ (1 : Int) = 2 ^ 53 := by norm_num
  have hnext : (m + 1 : ℚ) * 2 ^ e ≤ (2 ^ 52 : Nat) * 2 ^ (1 : Int) :=
    hcanonical.next_le (by norm_num) (by norm_num) (by rw [hbound]; exact not_le.mp hless)
  rw [hbound] at hnext
  have hhigh := hrounds.high
  have hinteger : (2 : ℚ) ^ 53 ≤ i.toInt.natAbs := by exact_mod_cast h
  have hplace : (0 : ℚ) < 2 ^ e := by positivity
  linarith

/-- No integer of at most 53 binary digits shares its double with another integer. -/
theorem floatOfInt_eq_iff {i j : Int64} (h : i.toInt.natAbs < 2 ^ 53 ∨ j.toInt.natAbs < 2 ^ 53) :
    floatOfInt i = floatOfInt j ↔ i = j := by
  have heq_of_lt {k l : Int64} (hk : k.toInt.natAbs < 2 ^ 53)
      (heq : floatOfInt k = floatOfInt l) : k = l := by
    have hvalue := exactValue_floatOfInt_of_natAbs_lt hk
    have hl : l.toInt.natAbs < 2 ^ 53 := by
      by_contra hlarge
      have hle := le_abs_exactValue_floatOfInt (not_lt.mp hlarge)
      rw [← heq, hvalue, ← Int.cast_abs, Int.abs_eq_natAbs] at hle
      have hle' : 2 ^ 53 ≤ k.toInt.natAbs := by exact_mod_cast hle
      omega
    have hvalue' := exactValue_floatOfInt_of_natAbs_lt hl
    rw [← heq, hvalue] at hvalue'
    exact Int64.toInt_inj.mp (by exact_mod_cast hvalue')
  constructor
  · rcases h with hi | hj
    · exact heq_of_lt hi
    · exact fun heq ↦ (heq_of_lt hj heq.symm).symm
  · rintro rfl
    rfl

theorem eq_zero_of_isZero_floatOfInt {i : Int64} (h : IsZero (floatOfInt i)) : i = 0 := by
  have hzero : exactValue (floatOfInt i) = 0 := Dyadic.value_of_significand_eq_zero h
  have hi : i.toInt.natAbs < 2 ^ 53 := by
    by_contra hlarge
    have hle := le_abs_exactValue_floatOfInt (not_lt.mp hlarge)
    rw [hzero, abs_zero] at hle
    norm_num at hle
  rw [exactValue_floatOfInt_of_natAbs_lt hi] at hzero
  exact Int64.toInt_inj.mp (by exact_mod_cast hzero)

/-- Conversion yields no NaN and one zero only, so that equal doubles of integers are the same. -/
theorem floatOfInt_beq_iff (i j : Int64) :
    (floatOfInt i == floatOfInt j) = true ↔ floatOfInt i = floatOfInt j := by
  rw [beq_iff]
  constructor
  · rintro (⟨heq, -⟩ | ⟨hi, hj⟩)
    · exact heq
    · rw [eq_zero_of_isZero_floatOfInt hi, eq_zero_of_isZero_floatOfInt hj]
  · exact fun heq ↦ Or.inl ⟨heq, isNaN_floatOfInt i⟩

end Worksheet.Decimal
