import Mathlib.Algebra.Order.Field.Power
import Mathlib.Algebra.Order.Floor.Semifield
import Mathlib.Data.Rat.Floor
import Mathlib.Tactic.Linarith
import Mathlib.Tactic.NormNum.Pow
import Mathlib.Tactic.Positivity
import Worksheet.Decimal.Double

/-!
The exact values of doubles.

A finite double stands for a rational number (`exactValue`). What a program asks of a double is
answered here from that number: whether it is a natural number (`toNat?_eq_some_iff`), whether it
reaches one (`one_le_iff`), and which machine word it is cut off to (`toNat_toUSize`). An integer of
at most 53 binary digits is the exact value of the double nearest to it (`exactValue_floatOfInt`).
The bridge is `reads_unpack`: the unpacked form of a double has the sign, the significand and the
exponent that `Dyadic.ofFloat` reads off the bits.
-/

set_option autoImplicit false
set_option relaxedAutoImplicit false

open Float.Model Float.Model.UnpackedFloat

namespace Worksheet.Decimal

/-! ### The bits of a double -/

theorem toNat_unpackExponent (b : BitVec Format.binary64.numBits) :
    (unpackExponent b).toNat = b.toNat / 2 ^ 52 % 2 ^ 11 := by
  simp [unpackExponent, Nat.shiftRight_eq_div_pow]

theorem toNat_unpackMantissa (b : BitVec Format.binary64.numBits) :
    (unpackMantissa b).toNat = b.toNat % 2 ^ 52 := by
  simp [unpackMantissa]

theorem toNat_unpackSign (b : BitVec Format.binary64.numBits) :
    (unpackSign b).toNat = b.toNat / 2 ^ 63 % 2 := by
  have hextract : unpackSign b = (b.extractLsb 63 63).cast rfl := rfl
  rw [hextract, BitVec.toNat_cast, BitVec.extractLsb_toNat, Nat.shiftRight_eq_div_pow]

theorem toNat_append_implicitBit (m : BitVec 52) : (1#1 ++ m).toNat = 2 ^ 52 + m.toNat := by
  rw [BitVec.toNat_append, ← Nat.shiftLeft_add_eq_or_of_lt m.isLt]
  rfl

namespace Dyadic

def sign (d : Dyadic) : Sign := if d.negative then .negative else .positive

theorem significand_ofFloat (x : Float) :
    (ofFloat x).significand =
      if x.toBits.toNat / 2 ^ 52 % 2 ^ 11 = 0 then x.toBits.toNat % 2 ^ 52
      else 2 ^ 52 + x.toBits.toNat % 2 ^ 52 := rfl

theorem exponent_ofFloat (x : Float) :
    (ofFloat x).exponent = -1074 + ((x.toBits.toNat / 2 ^ 52 % 2 ^ 11 - 1 : Nat) : Int) := rfl

theorem negative_ofFloat (x : Float) :
    (ofFloat x).negative = decide (2 ^ 63 ≤ x.toBits.toNat) := rfl

/-- Only the least exponent leaves a significand short. -/
theorem ofFloat_canonical (x : Float) :
    2 ^ 52 ≤ (ofFloat x).significand ∨ (ofFloat x).exponent = -1074 := by
  rw [significand_ofFloat, exponent_ofFloat]
  split
  · next h =>
    right
    rw [h]
    rfl
  · left
    omega

end Dyadic

abbrev packedBits (x : Float) : BitVec Format.binary64.numBits := x.toModel.toBits.toBitVec

theorem ofBitVec_unpackSign (x : Float) :
    Sign.ofBitVec (unpackSign (packedBits x)) = (Dyadic.ofFloat x).sign := by
  have hbit : (unpackSign (packedBits x)).toNat = x.toBits.toNat / 2 ^ 63 % 2 :=
    toNat_unpackSign _
  have hlt : x.toBits.toNat < 2 ^ 64 := x.toBits.toNat_lt
  unfold Sign.ofBitVec Dyadic.sign
  rw [Dyadic.negative_ofFloat]
  by_cases hnegative : 2 ^ 63 ≤ x.toBits.toNat
  · rw [if_neg, if_pos (decide_eq_true hnegative)]
    intro hzero
    rw [hzero] at hbit
    change 0 = _ at hbit
    omega
  · rw [if_pos, if_neg (by simpa using hnegative)]
    apply BitVec.eq_of_toNat_eq
    rw [hbit]
    change _ = 0
    omega

/-- How the exact reading of a double appears in its unpacked form. -/
inductive Reads (x : Float) : UnpackedFloat → Prop where
  | notANumber : Reads x .notANumber
  | infinity : Reads x (.infinity (Dyadic.ofFloat x).sign)
  | zero (hzero : (Dyadic.ofFloat x).significand = 0) : Reads x (.zero (Dyadic.ofFloat x).sign)
  | finite (hpos : 0 < (Dyadic.ofFloat x).significand) :
      Reads x (.finite (Dyadic.ofFloat x).sign (Dyadic.ofFloat x).significand
        (Dyadic.ofFloat x).exponent hpos)

theorem finite_congr {s s' : Sign} {m m' : Nat} {e e' : Int} (hpos : 0 < m) (hpos' : 0 < m')
    (hs : s = s') (hm : m = m') (he : e = e') :
    UnpackedFloat.finite s m e hpos = .finite s' m' e' hpos' := by
  subst hs hm he
  rfl

private theorem Reads.of_eq {x : Float} {m : Nat} {e : Int} (hpos : 0 < m)
    (hm : m = (Dyadic.ofFloat x).significand) (he : e = (Dyadic.ofFloat x).exponent) :
    Reads x (.finite (Dyadic.ofFloat x).sign m e hpos) := by
  subst hm he
  exact .finite hpos

theorem reads_unpack (x : Float) : Reads x x.toModel.unpack := by
  have hfield : (unpackExponent (packedBits x)).toNat = x.toBits.toNat / 2 ^ 52 % 2 ^ 11 :=
    toNat_unpackExponent _
  have hfraction : (unpackMantissa (packedBits x)).toNat = x.toBits.toNat % 2 ^ 52 :=
    toNat_unpackMantissa _
  have hsignificand := Dyadic.significand_ofFloat x
  have hexponent := Dyadic.exponent_ofFloat x
  rw [← hfield, ← hfraction] at hsignificand
  rw [← hfield] at hexponent
  unfold Float.Model.unpack UnpackedFloat.unpack
  dsimp only
  rw [ofBitVec_unpackSign]
  by_cases hones : unpackExponent (packedBits x) = -1#11
  · rw [if_pos hones]
    by_cases hm : unpackMantissa (packedBits x) = 0#52
    · rw [if_pos hm]
      exact .infinity
    · rw [if_neg hm]
      exact .notANumber
  · rw [if_neg hones]
    by_cases hsubnormal : unpackExponent (packedBits x) = 0#11
    · have hzero : (unpackExponent (packedBits x)).toNat = 0 := congrArg BitVec.toNat hsubnormal
      rw [if_pos hzero] at hsignificand
      rw [if_pos hsubnormal]
      by_cases hm : unpackMantissa (packedBits x) = 0#52
      · rw [dif_pos hm]
        exact .zero (hsignificand.trans (congrArg BitVec.toNat hm))
      · rw [dif_neg hm]
        refine .of_eq _ hsignificand.symm ?_
        rw [hexponent, hzero]
        rfl
    · have hpos : (unpackExponent (packedBits x)).toNat ≠ 0 :=
        fun h ↦ hsubnormal (BitVec.eq_of_toNat_eq h)
      rw [if_neg hpos] at hsignificand
      rw [if_neg hsubnormal]
      refine .of_eq _ ((toNat_append_implicitBit _).trans hsignificand.symm) ?_
      rw [hexponent]
      change ((unpackExponent (packedBits x)).toNat : Int) - ((1023 : Nat) + (52 : Nat) : Int) = _
      omega

theorem ofFloat_of_unpack {x : Float} {s : Sign} {m : Nat} {e : Int} {hpos : 0 < m}
    (h : x.toModel.unpack = .finite s m e hpos) :
    (Dyadic.ofFloat x).sign = s ∧ (Dyadic.ofFloat x).significand = m ∧
      (Dyadic.ofFloat x).exponent = e := by
  have hreads := reads_unpack x
  rw [h] at hreads
  cases hreads with
  | finite => exact ⟨rfl, rfl, rfl⟩

/-! ### The value of a dyadic number -/

namespace Dyadic

def magnitude (d : Dyadic) : ℚ := d.significand * 2 ^ d.exponent

def value (d : Dyadic) : ℚ := if d.negative then -d.magnitude else d.magnitude

theorem magnitude_nonneg (d : Dyadic) : 0 ≤ d.magnitude := by
  unfold magnitude
  positivity

theorem value_of_significand_eq_zero {d : Dyadic} (h : d.significand = 0) : d.value = 0 := by
  have hmagnitude : d.magnitude = 0 := by
    rw [magnitude, h, Nat.cast_zero, zero_mul]
  rw [value, hmagnitude, neg_zero, ite_self]

theorem value_of_negative {d : Dyadic} (h : d.negative = true) : d.value = -d.magnitude := if_pos h

theorem value_of_not_negative {d : Dyadic} (h : ¬ d.negative = true) : d.value = d.magnitude :=
  if_neg h

end Dyadic

theorem mul_zpow_of_nonneg (m : Nat) {e : Int} (he : 0 ≤ e) :
    (m : ℚ) * 2 ^ e = (m * 2 ^ e.toNat : Nat) := by
  obtain ⟨k, rfl⟩ := Int.eq_ofNat_of_zero_le he
  simp

theorem mul_zpow_of_neg (m : Nat) {e : Int} (he : e < 0) :
    (m : ℚ) * 2 ^ e = (m : ℚ) / (2 ^ (-e).toNat : Nat) := by
  obtain ⟨k, hk⟩ := Int.eq_ofNat_of_zero_le (by omega : 0 ≤ -e)
  rw [hk, show e = -(k : Int) by omega, zpow_neg, zpow_natCast, div_eq_mul_inv]
  simp

theorem floor_mul_zpow (m : Nat) (e : Int) :
    ⌊(m : ℚ) * 2 ^ e⌋₊ = if 0 ≤ e then m * 2 ^ e.toNat else m / 2 ^ (-e).toNat := by
  split
  · next he => rw [mul_zpow_of_nonneg m he, Nat.floor_natCast]
  · next he => rw [mul_zpow_of_neg m (Int.not_le.mp he), Nat.floor_div_eq_div]

/-- A quotient is a natural number when the division leaves no remainder. -/
private theorem exact_quotient_iff (m n : Nat) {scale : Nat} (hscale : 0 < scale) :
    (if m % scale = 0 then some (m / scale) else none) = some n ↔ (m : ℚ) / scale = n := by
  have hne : (scale : ℚ) ≠ 0 := by exact_mod_cast hscale.ne'
  rw [div_eq_iff hne]
  norm_cast
  by_cases hmod : m % scale = 0
  · rw [if_pos hmod, Option.some.injEq]
    exact Nat.div_eq_iff_eq_mul_left hscale (Nat.dvd_of_mod_eq_zero hmod)
  · rw [if_neg hmod]
    refine iff_of_false (fun h ↦ by cases h) fun h ↦ hmod ?_
    rw [h, Nat.mul_mod_left]

/-- The natural number of a dyadic number is its value. -/
theorem Dyadic.toNat?_eq_some_iff (d : Dyadic) (n : Nat) : d.toNat? = some n ↔ d.value = n := by
  unfold Dyadic.toNat?
  by_cases hnegative : d.negative = true ∧ d.significand ≠ 0
  · rw [if_pos hnegative, value_of_negative hnegative.1]
    have hsignificand : (0 : ℚ) < d.significand := by
      exact_mod_cast Nat.pos_of_ne_zero hnegative.2
    have hmagnitude : 0 < d.magnitude := mul_pos hsignificand (by positivity)
    refine iff_of_false (fun h ↦ by cases h) fun h ↦ ?_
    have hn : (0 : ℚ) ≤ n := n.cast_nonneg
    linarith
  · have hvalue : d.value = d.magnitude := by
      by_cases hsign : d.negative = true
      · have hzero : d.significand = 0 := of_not_not (not_and.mp hnegative hsign)
        rw [value_of_significand_eq_zero hzero, magnitude, hzero, Nat.cast_zero, zero_mul]
      · exact value_of_not_negative hsign
    rw [if_neg hnegative, hvalue, magnitude]
    by_cases he : 0 ≤ d.exponent
    · rw [if_pos he, mul_zpow_of_nonneg _ he, Option.some.injEq, Nat.cast_inj]
      rfl
    · rw [if_neg he, mul_zpow_of_neg _ (Int.not_le.mp he)]
      exact exact_quotient_iff d.significand n (Nat.pow_pos Nat.two_pos)

/-- The number that a finite double stands for. -/
def exactValue (x : Float) : ℚ := (Dyadic.ofFloat x).value

theorem toNat?_eq_some_iff (x : Float) (n : Nat) :
    toNat? x = some n ↔ x.isFinite = true ∧ exactValue x = n := by
  unfold toNat?
  by_cases h : x.isFinite = true
  · rw [if_pos h, Dyadic.toNat?_eq_some_iff]
    exact (and_iff_right h).symm
  · rw [if_neg h]
    exact iff_of_false (fun hn ↦ by cases hn) fun hn ↦ h hn.1

theorem isFinite_of_toNat? {x : Float} {n : Nat} (h : toNat? x = some n) : x.isFinite = true :=
  ((toNat?_eq_some_iff x n).mp h).1

theorem exactValue_of_toNat? {x : Float} {n : Nat} (h : toNat? x = some n) : exactValue x = n :=
  ((toNat?_eq_some_iff x n).mp h).2

theorem exactValue_of_unpack {x : Float} {s : Sign} {m : Nat} {e : Int} {hpos : 0 < m}
    (h : x.toModel.unpack = .finite s m e hpos) :
    x.isFinite = true ∧ exactValue x = (s.apply m : ℤ) * 2 ^ e := by
  obtain ⟨hsign, hsignificand, hexponent⟩ := ofFloat_of_unpack h
  constructor
  · change x.toModel.unpack.isFinite = true
    rw [h]
    rfl
  · rw [exactValue, ← hsign, Dyadic.sign]
    by_cases hnegative : (Dyadic.ofFloat x).negative = true
    · rw [if_pos hnegative, Dyadic.value_of_negative hnegative, Dyadic.magnitude, hsignificand,
        hexponent, Sign.apply, Int.cast_neg, Int.cast_natCast, neg_mul]
    · rw [if_neg hnegative, Dyadic.value_of_not_negative hnegative, Dyadic.magnitude, hsignificand,
        hexponent, Sign.apply, Int.cast_natCast]

/-! ### Cutting a double off to a machine word -/

theorem mantissa_shiftRight (em : ExtendedMantissa) (k : Nat) :
    (em >>> k).mantissa = em.mantissa / 2 ^ k := by
  induction k generalizing em with
  | zero => exact (Nat.div_one em.mantissa).symm
  | succ k ih =>
    change (em >>> k).mantissa / 2 = _
    rw [ih, Nat.div_div_eq_div_mul, pow_succ]

theorem roundToInt_eq_floor (s : Sign) (m : Nat) (e : Int) :
    roundToInt s m e = s.apply (⌊(m : ℚ) * 2 ^ e⌋₊ : Int) := by
  unfold roundToInt decreaseExponent shiftToExponent
  dsimp only
  rw [mantissa_shiftRight, floor_mul_zpow]
  congr 2
  change (m <<< (e - 0).toNat) / 2 ^ (0 - (e - ((e - 0).toNat : Int))).toNat = _
  rw [Nat.shiftLeft_eq]
  split
  · next he =>
    rw [show (0 - (e - ((e - 0).toNat : Int))).toNat = 0 by omega, pow_zero, Nat.div_one,
      Int.sub_zero]
  · next he =>
    rw [show (e - 0).toNat = 0 by omega, pow_zero, mul_one]
    congr 2
    omega

theorem toNat_ofNatClamp (n : Nat) : (USize.ofNatClamp n).toNat = min n (USize.size - 1) := by
  unfold USize.ofNatClamp
  split <;> rw [USize.toNat_ofNatLT] <;> omega

/-- Fractions are cut off, and what does not fit a word becomes the nearest word. -/
theorem toNat_toUSize {x : Float} (h : x.isFinite = true) :
    x.toUSize.toNat = min ⌊exactValue x⌋₊ (USize.size - 1) := by
  have hreads := reads_unpack x
  have hfinite : x.toModel.unpack.isFinite = true := h
  have hword : x.toUSize =
      USize.ofNatClamp (x.toModel.unpack.toInt 0 (USize.size - 1)).toNat := rfl
  rw [hword, toNat_ofNatClamp, exactValue]
  congr 1
  generalize x.toModel.unpack = u at hreads hfinite
  cases hreads with
  | notANumber => cases hfinite
  | infinity => cases hfinite
  | zero hzero =>
    rw [Dyadic.value_of_significand_eq_zero hzero, Nat.floor_zero]
    rfl
  | finite hpos =>
    change (roundToInt _ _ _).toNat = _
    rw [roundToInt_eq_floor, Dyadic.sign]
    by_cases hnegative : (Dyadic.ofFloat x).negative = true
    · have hle := Dyadic.magnitude_nonneg (Dyadic.ofFloat x)
      rw [if_pos hnegative, Dyadic.value_of_negative hnegative,
        Nat.floor_of_nonpos (neg_nonpos.mpr hle)]
      change (-(_ : Int)).toNat = 0
      omega
    · rw [if_neg hnegative, Dyadic.value_of_not_negative hnegative]
      rfl

/-! ### Comparison with one -/

theorem ofFloat_one : Dyadic.ofFloat 1.0 = ⟨false, 2 ^ 52, -52⟩ := by decide +kernel

theorem unpack_one :
    (1.0 : Float).toModel.unpack = .finite .positive (2 ^ 52) (-52) (by decide) := by
  have hreads := reads_unpack 1.0
  have hfinite : (1.0 : Float).toModel.unpack.isFinite = true := by decide +kernel
  generalize (1.0 : Float).toModel.unpack = u at hreads hfinite
  cases hreads with
  | notANumber => cases hfinite
  | infinity => cases hfinite
  | zero hzero =>
    rw [ofFloat_one] at hzero
    cases hzero
  | finite hpos =>
    have hsign : (Dyadic.ofFloat 1.0).sign = .positive := by
      rw [ofFloat_one]
      rfl
    exact finite_congr _ _ hsign (congrArg Dyadic.significand ofFloat_one)
      (congrArg Dyadic.exponent ofFloat_one)

theorem one_le_mul_zpow {m : Nat} {e : Int} (hm : m < 2 ^ 53)
    (hcanonical : 2 ^ 52 ≤ m ∨ e = -1074) :
    1 ≤ (m : ℚ) * 2 ^ e ↔ -52 < e ∨ (-52 = e ∧ 2 ^ 52 ≤ m) := by
  rw [← div_le_iff₀ (by positivity), one_div, ← zpow_neg]
  rcases lt_trichotomy (-52) e with hlt | heq | hgt
  · refine iff_of_true ?_ (Or.inl hlt)
    have hbig : 2 ^ 52 ≤ m := hcanonical.resolve_right (by omega)
    calc (2 : ℚ) ^ (-e) ≤ 2 ^ (52 : Int) := zpow_le_zpow_right₀ (by norm_num) (by omega)
      _ = (2 ^ 52 : Nat) := by norm_num
      _ ≤ m := by exact_mod_cast hbig
  · subst heq
    have hcast : (2 : ℚ) ^ (-(-52) : Int) = (2 ^ 52 : Nat) := by norm_num
    rw [hcast, Nat.cast_le]
    omega
  · refine iff_of_false ?_ (by omega)
    rw [not_le]
    calc (m : ℚ) < (2 ^ 53 : Nat) := by exact_mod_cast hm
      _ = 2 ^ (53 : Int) := by norm_num
      _ ≤ 2 ^ (-e) := zpow_le_zpow_right₀ (by norm_num) (by omega)

theorem isLE_compare_then (a b : Int) (c d : Nat) :
    ((compare a b).then (compare c d)).isLE = true ↔ a < b ∨ (a = b ∧ c ≤ d) := by
  rcases lt_trichotomy a b with hlt | heq | hgt
  · rw [compare_lt_iff_lt.mpr hlt]
    simp [hlt]
  · subst heq
    rw [compare_eq_iff_eq.mpr rfl]
    simp [Nat.isLE_compare]
  · rw [compare_gt_iff_gt.mpr hgt]
    simp only [Ordering.then, Ordering.isLE, Bool.false_eq_true, false_iff]
    omega

theorem one_le_iff {x : Float} (h : x.isFinite = true) : 1.0 ≤ x ↔ 1 ≤ exactValue x := by
  have hreads := reads_unpack x
  have hfinite : x.toModel.unpack.isFinite = true := h
  have hle : 1.0 ≤ x ↔
      ((1.0 : Float).toModel.unpack.compare x.toModel.unpack).any (·.isLE) = true :=
    decide_eq_true_iff
  rw [hle, unpack_one, exactValue]
  generalize x.toModel.unpack = u at hreads hfinite
  cases hreads with
  | notANumber => cases hfinite
  | infinity => cases hfinite
  | zero hzero =>
    rw [Dyadic.value_of_significand_eq_zero hzero]
    change Ordering.gt.isLE = true ↔ (1 : ℚ) ≤ 0
    exact iff_of_false Bool.false_ne_true (by norm_num)
  | finite hpos =>
    unfold Dyadic.sign
    by_cases hnegative : (Dyadic.ofFloat x).negative = true
    · have hnonneg := Dyadic.magnitude_nonneg (Dyadic.ofFloat x)
      rw [if_pos hnegative, Dyadic.value_of_negative hnegative]
      change Ordering.gt.isLE = true ↔ _
      exact iff_of_false Bool.false_ne_true (by linarith)
    · rw [if_neg hnegative, Dyadic.value_of_not_negative hnegative, Dyadic.magnitude,
        one_le_mul_zpow (Dyadic.significand_ofFloat_lt x) (Dyadic.ofFloat_canonical x)]
      exact isLE_compare_then _ _ _ _

/-! ### Packing and unpacking -/

theorem ofBitVec_unpackSign_packComponents {spec : Format} (s : Sign)
    (e : BitVec spec.exponentBits) (m : BitVec spec.mantissaBitsWithoutImplicit) :
    Sign.ofBitVec (unpackSign (packComponents spec s e m)) = s := by
  have hbit : unpackSign (packComponents spec s e m) = s.toBitVec := by
    ext i hi
    have hi0 : i = 0 := by omega
    subst hi0
    unfold unpackSign
    simp [packComponents, BitVec.getLsbD_append, BitVec.getElem_append]
  rw [hbit]
  cases s <;> rfl

theorem unpack_of_normal {b : BitVec Format.binary64.numBits} {s : Sign} {e : BitVec 11}
    {m : BitVec 52} (hs : Sign.ofBitVec (unpackSign b) = s) (he : unpackExponent b = e)
    (hm : unpackMantissa b = m) (hones : e ≠ -1#11) (hzero : e ≠ 0#11)
    (hpos : 0 < (1#1 ++ m).toNat) :
    UnpackedFloat.unpack Format.binary64 b =
      .finite s (1#1 ++ m).toNat (e.toNat - ((1023 : Nat) + (52 : Nat))) hpos := by
  subst hs he hm
  unfold UnpackedFloat.unpack
  dsimp only
  rw [if_neg hones, if_neg hzero]
  rfl

theorem log2_eq_of_bounds {m k : Nat} (hle : 2 ^ k ≤ m) (hlt : m < 2 ^ (k + 1)) : m.log2 = k := by
  have hm : m ≠ 0 := (Nat.lt_of_lt_of_le (Nat.pow_pos Nat.two_pos) hle).ne'
  have hlow := (Nat.le_log2 hm).mpr hle
  have hhigh := (Nat.log2_lt hm).mpr hlt
  omega

/-- A significand of 53 digits survives packing, as long as the exponent has a place. -/
theorem unpack_pack_normal (s : Sign) {m : Nat} {e : Int} (hpos : 0 < m) (hle : 2 ^ 52 ≤ m)
    (hlt : m < 2 ^ 53) (he : -1074 ≤ e) (he' : e ≤ 971) :
    UnpackedFloat.unpack Format.binary64
      (UnpackedFloat.pack Format.binary64 (.finite s m e hpos)) = .finite s m e hpos := by
  obtain ⟨biased, hbiased⟩ := Int.eq_ofNat_of_zero_le (show 0 ≤ e + 1075 by omega)
  have hlog : m.log2 + 1 = 53 := by rw [log2_eq_of_bounds hle hlt]
  have htoNat : (e + ((1023 : Nat) : Int) + ((52 : Nat) : Int)).toNat = biased := by omega
  have hpack : UnpackedFloat.pack Format.binary64 (.finite s m e hpos) =
      packComponents Format.binary64 s (BitVec.ofNat 11 biased) (BitVec.ofNat 52 m) := by
    unfold UnpackedFloat.pack
    change (if 2 ^ 11 ≤ (e + ((1023 : Nat) : Int) + ((52 : Nat) : Int)).toNat + 1 then _
      else if m.log2 + 1 = 53 then
        packComponents Format.binary64 s
          (BitVec.ofNat 11 (e + ((1023 : Nat) : Int) + ((52 : Nat) : Int)).toNat)
          (BitVec.ofNat 52 m)
      else _) = _
    rw [htoNat, if_neg (by omega), if_pos hlog]
  have hexponent : (BitVec.ofNat 11 biased).toNat = biased := by
    rw [BitVec.toNat_ofNat]
    omega
  have hones : BitVec.ofNat 11 biased ≠ -1#11 := by
    intro h
    rw [h] at hexponent
    change 2047 = biased at hexponent
    omega
  have hzero : BitVec.ofNat 11 biased ≠ 0#11 := by
    intro h
    rw [h] at hexponent
    change 0 = biased at hexponent
    omega
  have hmantissa : (1#1 ++ BitVec.ofNat 52 m).toNat = m := by
    rw [toNat_append_implicitBit, BitVec.toNat_ofNat]
    omega
  have hpos' : 0 < (1#1 ++ BitVec.ofNat 52 m).toNat := by rwa [hmantissa]
  rw [hpack, unpack_of_normal (ofBitVec_unpackSign_packComponents _ _ _)
    unpackExponent_packComponents unpackMantissa_packComponents hones hzero hpos']
  exact finite_congr _ hpos rfl hmantissa (by omega)

/-! ### Integers as doubles -/

theorem shiftToTargetExponent_of_normal {m : Nat} {e : Int} (hle : 2 ^ 52 ≤ m) (hlt : m < 2 ^ 53)
    (he : -1074 ≤ e) :
    shiftToTargetExponent Format.binary64 m e .exact = (⟨m, false, false⟩, e) := by
  have htarget : Format.binary64.targetExponent (totalExponent m e) = e := by
    unfold totalExponent
    rw [log2_eq_of_bounds hle hlt]
    change max (((52 : Nat) : Int) + 1 + e - 53) (-1074) = e
    omega
  unfold shiftToTargetExponent shiftToExponent
  dsimp only
  rw [htarget, Int.sub_self]
  exact Prod.ext rfl (Int.add_zero e)

theorem roundWithAccuracy_of_normal (s : Sign) {m : Nat} {e : Int} (hpos : 0 < m)
    (hle : 2 ^ 52 ≤ m) (hlt : m < 2 ^ 53) (he : -1074 ≤ e) :
    roundWithAccuracy Format.binary64 s m e .exact = .finite s m e hpos := by
  have hshift := shiftToTargetExponent_of_normal hle hlt he
  have hrounded : (ExtendedMantissa.mk m false false).roundedMantissa = m := rfl
  unfold roundWithAccuracy
  rw [hshift]
  dsimp only
  rw [hrounded, hshift]
  exact dif_neg hpos.ne'

theorem log2_le_of_lt {n : Nat} (hpos : 0 < n) (hlt : n < 2 ^ 53) : n.log2 ≤ 52 :=
  Nat.lt_succ_iff.mp ((Nat.log2_lt hpos.ne').mpr hlt)

/-- A number of at most 53 digits, moved up to 53 digits. -/
theorem normal_of_lt {n : Nat} (hpos : 0 < n) (hlt : n < 2 ^ 53) :
    2 ^ 52 ≤ n * 2 ^ (52 - n.log2) ∧ n * 2 ^ (52 - n.log2) < 2 ^ 53 := by
  have hlog := log2_le_of_lt hpos hlt
  have hlow : 2 ^ n.log2 ≤ n := Nat.log2_self_le hpos.ne'
  have hhigh : n < 2 ^ (n.log2 + 1) := Nat.lt_log2_self
  constructor
  · calc 2 ^ 52 = 2 ^ (n.log2 + (52 - n.log2)) := by rw [Nat.add_sub_cancel' hlog]
      _ = 2 ^ n.log2 * 2 ^ (52 - n.log2) := pow_add _ _ _
      _ ≤ n * 2 ^ (52 - n.log2) := Nat.mul_le_mul_right _ hlow
  · calc n * 2 ^ (52 - n.log2) < 2 ^ (n.log2 + 1) * 2 ^ (52 - n.log2) :=
          Nat.mul_lt_mul_of_pos_right hhigh (Nat.pow_pos Nat.two_pos)
      _ = 2 ^ (n.log2 + 1 + (52 - n.log2)) := (pow_add _ _ _).symm
      _ = 2 ^ 53 := by rw [show n.log2 + 1 + (52 - n.log2) = 53 by omega]

theorem ofInt_natCast {n : Nat} (hpos : 0 < n) (hlt : n < 2 ^ 53)
    (h : 0 < n * 2 ^ (52 - n.log2)) :
    UnpackedFloat.ofInt Format.binary64 n =
      .finite .positive (n * 2 ^ (52 - n.log2)) (-(52 - n.log2 : Nat)) h := by
  obtain ⟨hle, hlt'⟩ := normal_of_lt hpos hlt
  have hlog := log2_le_of_lt hpos hlt
  have hcompare : compare (n : Int) 0 = .gt := compare_gt_iff_gt.mpr (by exact_mod_cast hpos)
  have htarget : Format.binary64.targetExponent (totalExponent n 0) = -(52 - n.log2 : Nat) := by
    change max ((n.log2 : Int) + 1 + 0 - 53) (-1074) = _
    omega
  have hdecrease : decreaseExponent n 0 (-(52 - n.log2 : Nat)) =
      (n * 2 ^ (52 - n.log2), -((52 - n.log2 : Nat) : Int)) := by
    have hamount : (0 - (-((52 - n.log2 : Nat) : Int))).toNat = 52 - n.log2 := by omega
    unfold decreaseExponent
    dsimp only
    rw [hamount, Nat.shiftLeft_eq, Int.zero_sub]
  unfold UnpackedFloat.ofInt UnpackedFloat.normalize
  rw [hcompare]
  dsimp only
  rw [Int.toNat_natCast, UnpackedFloat.round]
  dsimp only
  rw [htarget, hdecrease]
  exact roundWithAccuracy_of_normal .positive h hle hlt' (by omega)

theorem unpack_floatOfInt {i : Int64} {n : Nat} (hn : i.toInt = n) (hpos : 0 < n)
    (hlt : n < 2 ^ 53) (h : 0 < n * 2 ^ (52 - n.log2)) :
    (floatOfInt i).toModel.unpack =
      .finite .positive (n * 2 ^ (52 - n.log2)) (-(52 - n.log2 : Nat)) h := by
  obtain ⟨hle, hlt'⟩ := normal_of_lt hpos hlt
  have hlog := log2_le_of_lt hpos hlt
  change UnpackedFloat.unpack Format.binary64
    (UnpackedFloat.pack Format.binary64 (UnpackedFloat.ofInt Format.binary64 i.toInt)) = _
  rw [hn, ofInt_natCast hpos hlt h]
  exact unpack_pack_normal .positive h hle hlt' (by omega) (by omega)

/-- An integer of at most 53 digits is a double itself. -/
theorem exactValue_floatOfInt {i : Int64} (hnonneg : 0 ≤ i.toInt) (hlt : i.toInt < 2 ^ 53) :
    (floatOfInt i).isFinite = true ∧ exactValue (floatOfInt i) = i.toInt := by
  obtain ⟨n, hn⟩ := Int.eq_ofNat_of_zero_le hnonneg
  -- Zero has no leading digit, so it is not rounded at all.
  rcases Nat.eq_zero_or_pos n with hzero | hpos
  · have hi : i = 0 := Int64.toInt_inj.mp (by rw [hn, hzero]; rfl)
    have hnat : toNat? (floatOfInt 0) = some 0 := by decide +kernel
    rw [hi]
    exact ⟨isFinite_of_toNat? hnat, exactValue_of_toNat? hnat⟩
  · have hscaled : 0 < n * 2 ^ (52 - n.log2) := Nat.mul_pos hpos (Nat.pow_pos Nat.two_pos)
    obtain ⟨hfinite, hvalue⟩ :=
      exactValue_of_unpack (unpack_floatOfInt hn hpos (by omega) hscaled)
    refine ⟨hfinite, ?_⟩
    rw [hvalue, hn, Sign.apply]
    push_cast
    rw [mul_assoc, ← zpow_natCast, ← zpow_add₀ two_ne_zero, add_neg_cancel, zpow_zero, mul_one]

end Worksheet.Decimal
