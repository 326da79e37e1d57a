import Worksheet.Decimal.Numeral
import Worksheet.Proofs.Decimal.Intervals

/-!
The double nearest to a decimal.

A number not below zero is rounded to one double (`NearestDouble`): to the one whose interval it is
in, or to zero or infinity where it is in none. No finite double is nearer
(`NearestDouble.abs_sub_le`). A decimal is converted to the double nearest to it
(`nearestDouble_iff`), on either of the two ways of conversion: the arithmetic on doubles for small
decimals, and the exact one for all others. A count is a decimal without a fraction
(`exactValue_ofNat`).
-/

set_option autoImplicit false
set_option relaxedAutoImplicit false

open Float.Model Float.Model.UnpackedFloat

namespace Worksheet.Decimal

/-! ### Doubles and their parts -/

/-- A double has no other parts than its bits. -/
theorem toBits_injective : Function.Injective Float.toBits := by
  rintro ⟨⟨bits, hvalid⟩⟩ ⟨⟨bits', hvalid'⟩⟩ h
  change bits = bits' at h
  subst h
  rfl

/-- The bits of a double are its sign, its significand and its exponent. -/
theorem Dyadic.ofFloat_injective : Function.Injective Dyadic.ofFloat := by
  intro x y h
  have hsignificand := congrArg Dyadic.significand h
  have hexponent := congrArg Dyadic.exponent h
  have hnegative := congrArg Dyadic.negative h
  rw [Dyadic.significand_ofFloat, Dyadic.significand_ofFloat] at hsignificand
  rw [Dyadic.exponent_ofFloat, Dyadic.exponent_ofFloat] at hexponent
  rw [Dyadic.negative_ofFloat, Dyadic.negative_ofFloat, decide_eq_decide] at hnegative
  have hx : x.toBits.toNat < 2 ^ 64 := x.toBits.toNat_lt
  have hy : y.toBits.toNat < 2 ^ 64 := y.toBits.toNat_lt
  apply toBits_injective
  apply UInt64.toNat_inj.mp
  split at hsignificand <;> split at hsignificand <;> omega

theorem eq_of_parts {x y : Float} (hsign : (Dyadic.ofFloat x).sign = (Dyadic.ofFloat y).sign)
    (hsignificand : (Dyadic.ofFloat x).significand = (Dyadic.ofFloat y).significand)
    (hexponent : (Dyadic.ofFloat x).exponent = (Dyadic.ofFloat y).exponent) : x = y := by
  apply Dyadic.ofFloat_injective
  generalize Dyadic.ofFloat x = d at *
  generalize Dyadic.ofFloat y = d' at *
  obtain ⟨negative, significand, exponent⟩ := d
  obtain ⟨negative', significand', exponent'⟩ := d'
  cases hsignificand
  cases hexponent
  cases negative <;> cases negative' <;> first | rfl | cases hsign

theorem eq_of_unpack {x y : Float} {s : Sign} {m : Nat} {e : Int} {hpos : 0 < m}
    (h : y.toModel.unpack = .finite s m e hpos) (hs : (Dyadic.ofFloat x).sign = s)
    (hm : (Dyadic.ofFloat x).significand = m) (he : (Dyadic.ofFloat x).exponent = e) : y = x := by
  obtain ⟨hs', hm', he'⟩ := ofFloat_of_unpack h
  exact eq_of_parts (hs'.trans hs.symm) (hm'.trans hm.symm) (he'.trans he.symm)

theorem isNaN_of_isFinite {x : Float} (h : x.isFinite = true) : x.isNaN = false := by
  change x.toModel.unpack.isFinite = true at h
  change x.toModel.unpack.isNaN = false
  cases hu : x.toModel.unpack with
  | notANumber => rw [hu] at h; cases h
  | infinity s => rfl
  | zero s => rfl
  | finite s m e hpos => rfl

theorem exponent_ofFloat_le {x : Float} (h : x.isFinite = true) :
    (Dyadic.ofFloat x).exponent ≤ 971 := by
  have hfield : (unpackExponent (packedBits x)).toNat = x.toBits.toNat / 2 ^ 52 % 2 ^ 11 :=
    toNat_unpackExponent _
  have hones : unpackExponent (packedBits x) ≠ -1#11 := by
    intro hones
    change x.toModel.unpack.isFinite = true at h
    unfold Float.Model.unpack UnpackedFloat.unpack at h
    dsimp only at h
    rw [if_pos hones] at h
    split at h <;> cases h
  have hlt : (unpackExponent (packedBits x)).toNat ≠ 2047 :=
    fun hall ↦ hones (BitVec.eq_of_toNat_eq hall)
  rw [Dyadic.exponent_ofFloat]
  omega

/-- A finite double other than zero is canonical. -/
theorem isCanonical_ofFloat {x : Float} (h : 0 < (Dyadic.ofFloat x).significand) :
    Canonical (Dyadic.ofFloat x).significand (Dyadic.ofFloat x).exponent where
  pos := h
  lt := Dyadic.significand_ofFloat_lt x
  le_exponent := by
    rw [Dyadic.exponent_ofFloat]
    omega
  leading := Dyadic.ofFloat_canonical x

theorem unpack_of_subnormal {b : BitVec Format.binary64.numBits} {s : Sign} {m : BitVec 52}
    (hs : Sign.ofBitVec (unpackSign b) = s) (he : unpackExponent b = 0#11)
    (hm : unpackMantissa b = m) (hne : m ≠ 0#52) (hpos : 0 < m.toNat) :
    UnpackedFloat.unpack Format.binary64 b = .finite s m.toNat (-1074) hpos := by
  subst hs hm
  unfold UnpackedFloat.unpack
  dsimp only
  rw [he, if_neg (by decide), if_pos rfl, dif_neg hne]
  rfl

/-- A short significand survives packing at the least exponent. -/
theorem unpack_pack_subnormal (s : Sign) {m : Nat} (hpos : 0 < m) (hlt : m < 2 ^ 52) :
    UnpackedFloat.unpack Format.binary64
      (UnpackedFloat.pack Format.binary64 (.finite s m (-1074) hpos)) =
      .finite s m (-1074) hpos := by
  have hlog : m.log2 + 1 ≠ 53 := by
    have := (Nat.log2_lt hpos.ne').mpr hlt
    omega
  have hpack : UnpackedFloat.pack Format.binary64 (.finite s m (-1074) hpos) =
      packComponents Format.binary64 s 0#11 (BitVec.ofNat 52 m) := by
    unfold UnpackedFloat.pack
    change (if 2 ^ 11 ≤ (-1074 + ((1023 : Nat) : Int) + ((52 : Nat) : Int)).toNat + 1 then _
      else if m.log2 + 1 = 53 then _ else _) = _
    rw [if_neg (by decide), if_neg hlog]
  have hmantissa : (BitVec.ofNat 52 m).toNat = m := by
    rw [BitVec.toNat_ofNat]
    omega
  have hpos' : 0 < (BitVec.ofNat 52 m).toNat := by rwa [hmantissa]
  have hne : BitVec.ofNat 52 m ≠ 0#52 := fun h ↦ hpos'.ne' (congrArg BitVec.toNat h)
  rw [hpack, unpack_of_subnormal (ofBitVec_unpackSign_packComponents _ _ _)
    unpackExponent_packComponents unpackMantissa_packComponents hne hpos']
  exact finite_congr _ hpos rfl hmantissa rfl

/-- A double survives packing. -/
theorem unpack_pack_canonical (s : Sign) {m : Nat} {e : Int} (h : Canonical m e) (he : e ≤ 971) :
    UnpackedFloat.unpack Format.binary64
      (UnpackedFloat.pack Format.binary64 (.finite s m e h.pos)) = .finite s m e h.pos := by
  rcases Nat.lt_or_ge m (2 ^ 52) with hsubnormal | hnormal
  · obtain rfl := h.leading.resolve_left (by omega)
    exact unpack_pack_subnormal s h.pos hsubnormal
  · exact unpack_pack_normal s h.pos hnormal h.lt h.le_exponent he

/-! ### The arithmetic on doubles -/

/-- A whole number of at most 53 digits is a double itself. -/
theorem unpack_toFloat {n : Nat} (hpos : 0 < n) (hlt : n < 2 ^ 53)
    (h : 0 < n * 2 ^ (52 - n.log2)) :
    n.toUInt64.toFloat.toModel.unpack =
      .finite .positive (n * 2 ^ (52 - n.log2)) (-(52 - n.log2 : Nat)) h := by
  obtain ⟨hle, hlt'⟩ := normal_of_lt hpos hlt
  have hlog := log2_le_of_lt hpos hlt
  have hn : n.toUInt64.toNat = n := by
    change n % 2 ^ 64 = n
    omega
  change UnpackedFloat.unpack Format.binary64
    (UnpackedFloat.pack Format.binary64 (UnpackedFloat.ofInt Format.binary64 n.toUInt64.toNat)) = _
  rw [hn, ofInt_natCast hpos hlt h]
  exact unpack_pack_normal .positive h hle hlt' (by omega) (by omega)

theorem value_toFloat (n : Nat) :
    ((n * 2 ^ (52 - n.log2) : Nat) : ℚ) * 2 ^ (-(52 - n.log2 : Nat) : Int) = n := by
  push_cast
  rw [mul_assoc, ← zpow_natCast, ← zpow_add₀ two_ne_zero, add_neg_cancel, zpow_zero, mul_one]

/-- What has to be checked of a tabulated power of ten: it is finite and positive, and its value
times `2 ^ 52`, a whole number, is that of the power. -/
def IsPowerOfTen (x : Float) (k : Nat) : Prop :=
  x.isFinite = true ∧ (Dyadic.ofFloat x).negative = false ∧ -52 ≤ (Dyadic.ofFloat x).exponent ∧
    (Dyadic.ofFloat x).significand * 2 ^ ((Dyadic.ofFloat x).exponent + 52).toNat =
      10 ^ k * 2 ^ 52

instance (x : Float) (k : Nat) : Decidable (IsPowerOfTen x k) :=
  inferInstanceAs (Decidable (_ ∧ _ ∧ _ ∧ _))

theorem isPowerOfTen_table :
    ∀ k : Fin Float.exactlyRepresentablePowersOfTen.size,
      IsPowerOfTen Float.exactlyRepresentablePowersOfTen[k] k := by
  decide +kernel

theorem IsPowerOfTen.unpack {x : Float} {k : Nat} (h : IsPowerOfTen x k) :
    ∃ (m : Nat) (e : Int) (hpos : 0 < m), x.toModel.unpack = .finite .positive m e hpos ∧
      (m : ℚ) * 2 ^ e = 10 ^ k := by
  obtain ⟨hfinite, hsign, hexponent, hvalue⟩ := h
  change x.toModel.unpack.isFinite = true at hfinite
  have hreads := reads_unpack x
  generalize x.toModel.unpack = u at hreads hfinite
  cases hreads with
  | notANumber => cases hfinite
  | infinity => cases hfinite
  | zero hzero =>
    rw [hzero, Nat.zero_mul] at hvalue
    exact absurd hvalue (by positivity)
  | finite hpos =>
    have hpositive : (Dyadic.ofFloat x).sign = .positive := by
      rw [Dyadic.sign, hsign]
      rfl
    refine ⟨_, _, hpos, finite_congr hpos hpos hpositive rfl rfl, ?_⟩
    have hscaled : ((Dyadic.ofFloat x).significand : ℚ) * 2 ^ (Dyadic.ofFloat x).exponent *
        2 ^ 52 = 10 ^ k * 2 ^ 52 := by
      have hcast : ((Dyadic.ofFloat x).significand : ℚ) *
          2 ^ ((Dyadic.ofFloat x).exponent + 52).toNat = 10 ^ k * 2 ^ 52 := by exact_mod_cast hvalue
      rw [← hcast, mul_assoc, ← zpow_natCast (2 : ℚ) 52, ← zpow_add₀ two_ne_zero, ← zpow_natCast,
        Int.toNat_of_nonneg (by omega)]
      rfl
    exact mul_right_cancel₀ (by positivity) hscaled

/-- The double is packed from what a number is rounded to. -/
def IsRounded (q : ℚ) (x : Float) : Prop :=
  ∃ u, x.toModel = Float.Model.pack u ∧ Rounds u .positive q

section

variable {n : Nat} (hn : 0 < n)

include hn

/-- A small decimal is multiplied or divided by its power of ten. -/
theorem isRounded_fast (hlt : n < 2 ^ 53) {power : Float} {k : Nat}
    (hpower : IsPowerOfTen power k) :
    IsRounded (n * 10 ^ k) (n.toUInt64.toFloat * power) ∧
      IsRounded (n / 10 ^ k) (n.toUInt64.toFloat / power) := by
  obtain ⟨m, e, hpos, hunpack, hvalue⟩ := hpower.unpack
  have hpos' : 0 < n * 2 ^ (52 - n.log2) := Nat.mul_pos hn (Nat.pow_pos two_pos)
  have hunpack' := unpack_toFloat hn hlt hpos'
  have hnormal := (normal_of_lt hn hlt).1
  rw [← value_toFloat n, ← hvalue]
  constructor
  · refine ⟨UnpackedFloat.mul Format.binary64 n.toUInt64.toFloat.toModel.unpack
      power.toModel.unpack, rfl, ?_⟩
    rw [hunpack', hunpack]
    exact rounds_mul hpos' hpos (hnormal.trans (Nat.le_mul_of_pos_right _ hpos))
  · refine ⟨UnpackedFloat.div Format.binary64 n.toUInt64.toFloat.toModel.unpack
      power.toModel.unpack, rfl, ?_⟩
    rw [hunpack', hunpack]
    exact rounds_div hpos' hpos

/-- The exact conversion, for exponents of a moderate size. -/
theorem rounds_exact {k : Int} (hk : -((n.log2 + 400 : Nat) : Int) ≤ k) (hk' : k ≤ 400) :
    Rounds (UnpackedFloat.ofScientific Format.binary64 n k) .positive (n * 10 ^ k) := by
  have hbig : ¬ k > 2 ^ Format.binary64.exponentBits := by
    change ¬ k > 2 ^ 11
    omega
  have hsmall : ¬ k < -((2 ^ Format.binary64.exponentBits : Int) + n.log2) := by
    change ¬ k < -(2 ^ 11 + (n.log2 : Int))
    omega
  unfold UnpackedFloat.ofScientific
  rw [dif_neg hn.ne', if_neg hbig, if_neg hsmall]
  by_cases hnonneg : 0 ≤ k
  · rw [if_pos hnonneg]
    have hpos : 0 < n <<< Format.binary64.mantissaBits := by
      rw [Nat.shiftLeft_eq]
      exact Nat.mul_pos hn (Nat.pow_pos two_pos)
    have hpower : 0 < 10 ^ k.toNat := Nat.pow_pos (by decide)
    have hvalue : ((n <<< Format.binary64.mantissaBits : Nat) : ℚ) *
        2 ^ (-(Format.binary64.mantissaBits : Nat) : Int) *
        (((10 ^ k.toNat : Nat) : ℚ) * 2 ^ (0 : Int)) = n * 10 ^ k := by
      rw [Nat.shiftLeft_eq, ← Int.toNat_of_nonneg hnonneg, zpow_natCast, zpow_neg, zpow_natCast,
        Int.toNat_natCast]
      push_cast
      field_simp
    rw [← hvalue]
    refine rounds_mul hpos hpower ?_
    calc 2 ^ 52 ≤ n * 2 ^ 53 := by omega
      _ = n <<< Format.binary64.mantissaBits := (Nat.shiftLeft_eq _ _).symm
      _ ≤ n <<< Format.binary64.mantissaBits * 10 ^ k.toNat := Nat.le_mul_of_pos_right _ hpower
  · rw [if_neg hnonneg]
    have hpower : 0 < 10 ^ (-k).toNat := Nat.pow_pos (by decide)
    have hvalue : ((n : ℚ) * 2 ^ (0 : Int)) / (((10 ^ (-k).toNat : Nat) : ℚ) * 2 ^ (0 : Int)) =
        n * 10 ^ k := by
      have hk'' : (10 : ℚ) ^ k = (10 ^ (-k).toNat)⁻¹ := by
        rw [← zpow_natCast, Int.toNat_of_nonneg (by omega), zpow_neg, inv_inv]
      rw [hk'', zpow_zero, mul_one, mul_one, div_eq_mul_inv]
      push_cast
      rfl
    rw [← hvalue]
    exact rounds_div hn hpower

theorem isRounded_ofScientific {k : Int} (hk : -((n.log2 + 400 : Nat) : Int) ≤ k)
    (hk' : k ≤ 400) :
    IsRounded (n * 10 ^ k) (Float.ofScientific n (decide (k < 0)) k.natAbs) := by
  unfold Float.ofScientific
  by_cases hsmall : n < 2 ^ 53 ∧ k.natAbs ≤ 22
  · rw [dif_pos hsmall]
    have hpower := isPowerOfTen_table ⟨k.natAbs, Nat.lt_succ_of_le hsmall.2⟩
    obtain ⟨hmul, hdiv⟩ := isRounded_fast hn hsmall.1 hpower
    dsimp only
    by_cases hneg : k < 0
    · rw [if_pos (decide_eq_true hneg)]
      have hvalue : (n : ℚ) * 10 ^ k = n / 10 ^ k.natAbs := by
        rw [show k = -(k.natAbs : Int) by omega, zpow_neg, zpow_natCast, ← div_eq_mul_inv,
          Int.natAbs_neg, Int.natAbs_natCast]
      rw [hvalue]
      exact hdiv
    · rw [if_neg (Bool.eq_false_iff.mp (decide_eq_false hneg))]
      have hvalue : (n : ℚ) * 10 ^ k = n * 10 ^ k.natAbs := by
        rw [← zpow_natCast, Int.natAbs_of_nonneg (by omega)]
      rw [hvalue]
      exact hmul
  · rw [dif_neg hsmall]
    have hsign :
        (if decide (k < 0) = true then Int.negOfNat k.natAbs else Int.ofNat k.natAbs) = k := by
      split
      · next hneg =>
        have := of_decide_eq_true hneg
        rw [Int.negOfNat_eq]
        change -(k.natAbs : Int) = k
        omega
      · next hneg =>
        have := of_decide_eq_false (Bool.eq_false_iff.mpr hneg)
        change (k.natAbs : Int) = k
        omega
    rw [hsign]
    exact ⟨_, rfl, rounds_exact hn hk hk'⟩

end

/-! ### The double that a number is rounded to -/

/-- The double that a number not below zero is rounded to: the one whose interval the number is
in, zero below the intervals of all doubles, and infinity above them. -/
inductive NearestDouble (q : ℚ) : Float → Prop where
  | zero (h : q ≤ 2 ^ (-1075 : Int)) : NearestDouble q 0.0
  | finite {x : Float} (hfinite : x.isFinite = true)
      (hsign : (Dyadic.ofFloat x).negative = false) (hpos : 0 < (Dyadic.ofFloat x).significand)
      (h : RoundsTo (Dyadic.ofFloat x).significand (Dyadic.ofFloat x).exponent q) :
      NearestDouble q x
  | infinite (h : overflowBound ≤ q) : NearestDouble q (1.0 / 0.0)

/-- A number that is not negative is no nearer to a negative double than to the positive one. -/
theorem Dyadic.abs_sub_magnitude_le (d : Dyadic) {q : ℚ} (hq : 0 ≤ q) :
    |q - d.magnitude| ≤ |q - d.value| := by
  have hmagnitude := d.magnitude_nonneg
  by_cases hnegative : d.negative = true
  · rw [value_of_negative hnegative]
    exact (abs_le.mpr ⟨by linarith, by linarith⟩).trans (le_abs_self _)
  · rw [value_of_not_negative hnegative]

/-- No finite double is nearer to the number. -/
theorem NearestDouble.abs_sub_le {q : ℚ} {x y : Float} (h : NearestDouble q x) (hq : 0 ≤ q)
    (hx : x.isFinite = true) : |q - exactValue x| ≤ |q - exactValue y| := by
  refine le_trans ?_ ((Dyadic.ofFloat y).abs_sub_magnitude_le hq)
  have hlt := Dyadic.significand_ofFloat_lt y
  have hleast : -1074 ≤ (Dyadic.ofFloat y).exponent := by
    rw [Dyadic.exponent_ofFloat]
    omega
  cases h with
  | zero hsmall =>
    rw [exactValue_of_toNat? (by decide +kernel : toNat? 0.0 = some 0), Nat.cast_zero, sub_zero,
      abs_of_nonneg hq, Dyadic.magnitude]
    rcases Nat.eq_zero_or_pos (Dyadic.ofFloat y).significand with hzero | hpos
    · rw [hzero, Nat.cast_zero, zero_mul, sub_zero]
      exact le_abs_self q
    · have hone : (1 : ℚ) ≤ (Dyadic.ofFloat y).significand := by exact_mod_cast hpos
      have hhalf : (2 : ℚ) ^ (-1075 : Int) = 1 / 2 * 2 ^ (-1074 : Int) := by
        rw [← two_zpow_pred, show (-1074 : Int) - 1 = -1075 from rfl]
      have hplace : (2 : ℚ) ^ (-1074 : Int) ≤ 2 ^ (Dyadic.ofFloat y).exponent :=
        zpow_le_zpow_right₀ one_le_two hleast
      have hmagnitude := le_mul_of_one_le_left
        (by positivity : (0 : ℚ) ≤ 2 ^ (Dyadic.ofFloat y).exponent) hone
      rw [hhalf] at hsmall
      generalize (2 : ℚ) ^ (-1074 : Int) = place at *
      exact le_trans (by linarith) (neg_le_abs _)
  | finite hfinite hsign hpos hrounds =>
    rw [exactValue, Dyadic.value_of_not_negative (Bool.eq_false_iff.mp hsign)]
    exact hrounds.abs_sub_le (isCanonical_ofFloat hpos) hlt hleast
  | infinite hlarge => exact absurd hx (by decide +kernel)

theorem pack_zero : Float.ofModel (Float.Model.pack (.zero .positive)) = 0.0 := by decide +kernel

theorem pack_infinity : Float.ofModel (Float.Model.pack (.infinity .positive)) = 1.0 / 0.0 := by
  decide +kernel

/-- What has no place for its exponent is packed as infinity. -/
theorem pack_of_overflow (s : Sign) {m : Nat} {e : Int} (hpos : 0 < m) (he : 971 < e) :
    Float.Model.pack (.finite s m e hpos) = Float.Model.pack (.infinity s) := by
  have hbits : UnpackedFloat.pack Format.binary64 (.finite s m e hpos) =
      UnpackedFloat.pack Format.binary64 (.infinity s) := by
    unfold UnpackedFloat.pack
    change (if 2 ^ 11 ≤ (e + ((1023 : Nat) : Int) + ((52 : Nat) : Int)).toNat + 1 then _
      else _) = _
    rw [if_pos (by omega)]
  exact (Float.Model.mk.injEq _ _ _ _).mpr (congrArg UInt64.ofBitVec hbits)

namespace IsRounded

variable {q : ℚ} {x : Float}

theorem unpack_eq (h : IsRounded q x) {m : Nat} {e : Int} (hcanonical : Canonical m e)
    (he : e ≤ 971) (hq : RoundsTo m e q) :
    x.toModel.unpack = .finite .positive m e hcanonical.pos := by
  obtain ⟨u, hx, hu⟩ := h
  rw [hx, hu.eq_of_roundsTo hcanonical hq]
  exact unpack_pack_canonical .positive hcanonical he

theorem eq_zero (h : IsRounded q x) (hq : q ≤ 2 ^ (-1075 : Int)) : x = 0.0 := by
  obtain ⟨u, hx, hu⟩ := h
  rw [hu.eq_zero_of_small hq] at hx
  rw [← pack_zero, ← hx]

theorem eq_infinity (h : IsRounded q x) (hq : overflowBound ≤ q) : x = 1.0 / 0.0 := by
  obtain ⟨m, e, hcanonical, hrounds⟩ := exists_roundsTo (small_lt_overflowBound.trans_le hq)
  have he : 971 < e := by
    by_contra hle
    exact absurd hq (hrounds.lt_overflowBound hcanonical (by omega)).not_ge
  obtain ⟨u, hx, hu⟩ := h
  rw [hu.eq_of_roundsTo hcanonical hrounds] at hx
  rw [← pack_infinity, ← pack_of_overflow .positive hcanonical.pos he, ← hx]

end IsRounded

/-! ### Decimals as doubles -/

theorem two_pow_le_ten_pow (j : Nat) : (2 : ℚ) ^ (3 * j) ≤ 10 ^ j := by
  rw [pow_mul]
  exact pow_le_pow_left₀ (by norm_num) (by norm_num) j

/-- At an exponent that is cut off from below the decimal is rounded to zero. -/
theorem small_of_le {n : Nat} {k : Int} (hk : k ≤ -((n.log2 + 400 : Nat) : Int)) :
    (n : ℚ) * 10 ^ k ≤ 2 ^ (-1075 : Int) := by
  obtain ⟨j, rfl⟩ : ∃ j : Nat, k = -((n.log2 + 400 + j : Nat) : Int) :=
    ⟨(-k - (n.log2 + 400)).toNat, by omega⟩
  have hn : (n : ℚ) < 2 ^ (n.log2 + 1) := by exact_mod_cast Nat.lt_log2_self
  have hsmall : (n : ℚ) * 2 ^ 1075 ≤ 10 ^ (n.log2 + 400 + j) := by
    calc (n : ℚ) * 2 ^ 1075 ≤ 2 ^ (n.log2 + 1) * 2 ^ 1075 :=
          mul_le_mul_of_nonneg_right hn.le (by positivity)
      _ = 2 ^ (n.log2 + 1 + 1075) := (pow_add _ _ _).symm
      _ ≤ 2 ^ (3 * (n.log2 + 400 + j)) := pow_le_pow_right₀ one_le_two (by omega)
      _ ≤ 10 ^ (n.log2 + 400 + j) := two_pow_le_ten_pow _
  have hpower : (2 : ℚ) ^ (-1075 : Int) = (2 ^ 1075)⁻¹ := (zpow_neg 2 1075).trans
    (congrArg _ (zpow_natCast 2 1075))
  rw [hpower, zpow_neg, zpow_natCast, ← div_eq_mul_inv, div_le_iff₀ (by positivity),
    le_inv_mul_iff₀ (by positivity), mul_comm]
  exact hsmall

/-- At an exponent that is cut off from above the decimal is rounded to infinity. -/
theorem overflowBound_le_of_le {n : Nat} (hn : 0 < n) {k : Int} (hk : 400 ≤ k) :
    overflowBound ≤ n * 10 ^ k := by
  obtain ⟨j, rfl⟩ : ∃ j : Nat, k = ((400 + j : Nat) : Int) := ⟨(k - 400).toNat, by omega⟩
  have hone : (1 : ℚ) ≤ n := by exact_mod_cast hn
  rw [zpow_natCast]
  calc overflowBound ≤ 2 ^ 53 * 2 ^ (971 : Int) :=
        mul_le_mul_of_nonneg_right (by norm_num) (by positivity)
    _ = 2 ^ 1024 := by
        rw [← zpow_natCast (2 : ℚ) 53, ← zpow_add₀ two_ne_zero]
        exact zpow_natCast 2 1024
    _ ≤ 2 ^ (3 * (400 + j)) := pow_le_pow_right₀ one_le_two (by omega)
    _ ≤ 10 ^ (400 + j) := two_pow_le_ten_pow _
    _ ≤ n * 10 ^ (400 + j) := le_mul_of_one_le_left (by positivity) hone

/-- The double of a decimal is rounded from the decimal, or from one that is cut off alike. -/
theorem exists_isRounded_nearestFloat {n : Nat} (hn : 0 < n) (k : Int) :
    ∃ q, IsRounded q (nearestFloat n k) ∧ (q = n * 10 ^ k ∨
      (q ≤ 2 ^ (-1075 : Int) ∧ (n : ℚ) * 10 ^ k ≤ 2 ^ (-1075 : Int)) ∨
      (overflowBound ≤ q ∧ overflowBound ≤ n * 10 ^ k)) := by
  obtain ⟨j, hj⟩ : ∃ j : Int, j = max (-((n.log2 + 400 : Nat) : Int)) (min 400 k) := ⟨_, rfl⟩
  have hrounded : IsRounded (n * 10 ^ j) (nearestFloat n k) := by
    unfold nearestFloat
    rw [← hj]
    exact isRounded_ofScientific hn (by omega) (by omega)
  refine ⟨_, hrounded, ?_⟩
  rcases lt_or_ge k (-((n.log2 + 400 : Nat) : Int)) with hlow | hlow
  · exact Or.inr (Or.inl ⟨small_of_le (by omega), small_of_le hlow.le⟩)
  · rcases lt_or_ge 400 k with hhigh | hhigh
    · exact Or.inr (Or.inr ⟨overflowBound_le_of_le hn (by omega),
        overflowBound_le_of_le hn hhigh.le⟩)
    · rw [show j = k by omega]
      exact Or.inl rfl

theorem pos_of_roundsTo {m : Nat} {e : Int} (hm : 0 < m) {n : Nat} {k : Int}
    (h : RoundsTo m e (n * 10 ^ k)) : 0 < n := by
  have hvalue := h.pos hm
  exact_mod_cast (mul_pos_iff_of_pos_right (by positivity)).mp hvalue

/-- A decimal that rounds to a double is converted to it. -/
theorem unpack_nearestFloat {m : Nat} {e : Int} (h : Canonical m e) (he : e ≤ 971) {n : Nat}
    (hn : 0 < n) {k : Int} (hq : RoundsTo m e (n * 10 ^ k)) :
    (nearestFloat n k).toModel.unpack = .finite .positive m e h.pos := by
  obtain ⟨q, hrounded, rfl | ⟨-, hsmall⟩ | ⟨-, hlarge⟩⟩ := exists_isRounded_nearestFloat hn k
  · exact hrounded.unpack_eq h he hq
  · exact absurd hsmall (hq.small_lt h).not_ge
  · exact absurd hlarge (hq.lt_overflowBound h he).not_ge

theorem mul_powerOfTen_zero :
    ∀ k : Fin Float.exactlyRepresentablePowersOfTen.size,
      (0 : Nat).toUInt64.toFloat * Float.exactlyRepresentablePowersOfTen[k] = 0.0 ∧
        (0 : Nat).toUInt64.toFloat / Float.exactlyRepresentablePowersOfTen[k] = 0.0 := by
  decide +kernel

theorem ofScientific_zero (negative : Bool) (k : Nat) :
    Float.ofScientific 0 negative k = 0.0 := by
  unfold Float.ofScientific
  by_cases hsmall : 0 < 2 ^ 53 ∧ k ≤ 22
  · obtain ⟨hmul, hdiv⟩ := mul_powerOfTen_zero ⟨k, Nat.lt_succ_of_le hsmall.2⟩
    rw [dif_pos hsmall]
    dsimp only
    split
    · exact hdiv
    · exact hmul
  · rw [dif_neg hsmall]
    exact pack_zero

theorem nearestFloat_of_small {n : Nat} {k : Int} (h : (n : ℚ) * 10 ^ k ≤ 2 ^ (-1075 : Int)) :
    nearestFloat n k = 0.0 := by
  rcases Nat.eq_zero_or_pos n with rfl | hn
  · exact ofScientific_zero _ _
  obtain ⟨q, hrounded, rfl | ⟨hsmall, -⟩ | ⟨-, hlarge⟩⟩ := exists_isRounded_nearestFloat hn k
  · exact hrounded.eq_zero h
  · exact hrounded.eq_zero hsmall
  · exact absurd h (small_lt_overflowBound.trans_le hlarge).not_ge

theorem nearestFloat_of_large {n : Nat} {k : Int} (h : overflowBound ≤ n * 10 ^ k) :
    nearestFloat n k = 1.0 / 0.0 := by
  have hn : 0 < n := by
    refine Nat.pos_of_ne_zero fun hzero ↦ absurd h (not_le.mpr ?_)
    rw [hzero, Nat.cast_zero, zero_mul]
    exact (by positivity : (0 : ℚ) < 2 ^ (-1075 : Int)).trans small_lt_overflowBound
  obtain ⟨q, hrounded, rfl | ⟨-, hsmall⟩ | ⟨hlarge, -⟩⟩ := exists_isRounded_nearestFloat hn k
  · exact hrounded.eq_infinity h
  · exact absurd hsmall (small_lt_overflowBound.trans_le h).not_ge
  · exact hrounded.eq_infinity hlarge

/-- Every decimal has one nearest double, and the conversion finds it. -/
theorem nearestDouble_iff {n : Nat} {k : Int} {x : Float} :
    NearestDouble (n * 10 ^ k) x ↔ nearestFloat n k = x := by
  constructor
  · intro h
    cases h with
    | zero hsmall => exact nearestFloat_of_small hsmall
    | finite hfinite hsign hpos hrounds =>
      have hn : 0 < n := pos_of_roundsTo hpos hrounds
      have hunpack := unpack_nearestFloat (isCanonical_ofFloat hpos)
        (exponent_ofFloat_le hfinite) hn hrounds
      exact eq_of_unpack hunpack (by rw [Dyadic.sign, hsign]; rfl) rfl rfl
    | infinite hlarge => exact nearestFloat_of_large hlarge
  · rintro rfl
    rcases le_or_gt ((n : ℚ) * 10 ^ k) (2 ^ (-1075 : Int)) with hsmall | habove
    · rw [nearestFloat_of_small hsmall]
      exact .zero hsmall
    obtain ⟨m, e, hcanonical, hrounds⟩ := exists_roundsTo habove
    rcases lt_or_ge 971 e with hlarge | he
    · have hoverflow := hrounds.overflowBound_le hcanonical hlarge
      rw [nearestFloat_of_large hoverflow]
      exact .infinite hoverflow
    · have hn : 0 < n := pos_of_roundsTo hcanonical.pos hrounds
      have hunpack := unpack_nearestFloat hcanonical he hn hrounds
      obtain ⟨hsign, hsignificand, hexponent⟩ := ofFloat_of_unpack hunpack
      refine .finite (exactValue_of_unpack hunpack).1 ?_ ?_ ?_
      · unfold Dyadic.sign at hsign
        cases hnegative : (Dyadic.ofFloat (nearestFloat n k)).negative with
        | false => rfl
        | true => simp [hnegative] at hsign
      · rw [hsignificand]
        exact hcanonical.pos
      · rw [hsignificand, hexponent]
        exact hrounds

/-! ### Counts as doubles -/

theorem roundsTo_self (m : Nat) (e : Int) : RoundsTo m e (m * 2 ^ e) := by
  have hpos : (0 : ℚ) < 2 ^ e := by positivity
  have hquarters : (0 : ℚ) < quartersBelow m e := by
    unfold quartersBelow
    split <;> norm_num
  have hlow : (m - quartersBelow m e / 4 : ℚ) * 2 ^ e < m * 2 ^ e :=
    mul_lt_mul_of_pos_right (by linarith) hpos
  have hhigh : (m : ℚ) * 2 ^ e < (m + 1 / 2) * 2 ^ e :=
    mul_lt_mul_of_pos_right (by linarith) hpos
  exact ⟨hlow.le, hhigh.le, fun _ ↦ ⟨hlow, hhigh⟩⟩

theorem nearestFloat_ofNat (n : Nat) : nearestFloat n 0 = Float.ofNat n := by
  unfold nearestFloat
  rw [show max (-((n.log2 + 400 : Nat) : Int)) (min 400 0) = 0 by omega]
  rfl

/-- A count of at most 53 binary digits is a double itself. -/
theorem exactValue_ofNat {n : Nat} (hlt : n < 2 ^ 53) :
    (Float.ofNat n).isFinite = true ∧ exactValue (Float.ofNat n) = n := by
  rcases Nat.eq_zero_or_pos n with rfl | hpos
  · have hnat : toNat? (Float.ofNat 0) = some 0 := by decide +kernel
    exact ⟨isFinite_of_toNat? hnat, exactValue_of_toNat? hnat⟩
  · obtain ⟨hle, hlt'⟩ := normal_of_lt hpos hlt
    have hcanonical : Canonical (n * 2 ^ (52 - n.log2)) (-(52 - n.log2 : Nat)) :=
      ⟨by omega, hlt', by omega, Or.inl hle⟩
    have hrounds := roundsTo_self (n * 2 ^ (52 - n.log2)) (-(52 - n.log2 : Nat))
    rw [value_toFloat, ← mul_one (n : ℚ), ← zpow_zero (10 : ℚ)] at hrounds
    have hunpack := unpack_nearestFloat hcanonical (by omega) hpos hrounds
    rw [nearestFloat_ofNat] at hunpack
    obtain ⟨hfinite, hvalue⟩ := exactValue_of_unpack hunpack
    refine ⟨hfinite, hvalue.trans ?_⟩
    rw [Sign.apply]
    exact_mod_cast value_toFloat n

end Worksheet.Decimal
