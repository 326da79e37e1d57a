import Worksheet.Proofs.Decimal.FloatOrder

/-!
Zeros, ones and infinities as operands.

An operation on doubles is one on their unpacked forms, packed again, and what a double is unpacked
to survives packing (`unpack_pack_unpack`). So a zero is neutral in a sum, up to the sign of a zero
(`add_beq_iff_of_isZero`), and a one in a product (`floatMul_one`). A finite number times a zero is
a zero (`isZero_mul`); anything else times a zero is NaN (`isNaN_mul_of_isZero`), and a NaN is not
lost in any further operation.
-/

set_option autoImplicit false
set_option relaxedAutoImplicit false

open Float.Model Float.Model.UnpackedFloat

namespace Worksheet.Decimal

/-! ### Packing what was unpacked -/

theorem unpack_pack_zero (s : Sign) : (Float.Model.pack (.zero s)).unpack = .zero s := by
  cases s <;> rfl

theorem unpack_pack_infinity (s : Sign) :
    (Float.Model.pack (.infinity s)).unpack = .infinity s := by
  cases s <;> rfl

theorem unpack_pack_notANumber : (Float.Model.pack .notANumber).unpack = .notANumber := rfl

theorem unpack_zero : (0.0 : Float).toModel.unpack = .zero .positive := rfl

theorem unpack_infinity : (1.0 / 0.0 : Float).toModel.unpack = .infinity .positive := rfl

theorem unpack_negInfinity : (-1.0 / 0.0 : Float).toModel.unpack = .infinity .negative := rfl

theorem canonical_of_unpack {x : Float} {s : Sign} {m : Nat} {e : Int} {hpos : 0 < m}
    (h : x.toModel.unpack = .finite s m e hpos) : Canonical m e := by
  obtain ⟨-, hsignificand, hexponent⟩ := ofFloat_of_unpack h
  rw [← hsignificand, ← hexponent]
  exact isCanonical_ofFloat (by rwa [hsignificand])

/-- The parts of a double survive packing under either sign. -/
theorem unpack_pack_of_unpack {x : Float} {s : Sign} {m : Nat} {e : Int} {hpos : 0 < m}
    (h : x.toModel.unpack = .finite s m e hpos) (t : Sign) :
    (Float.Model.pack (.finite t m e hpos)).unpack = .finite t m e hpos := by
  obtain ⟨-, -, hexponent⟩ := ofFloat_of_unpack h
  have hfinite : x.isFinite = true := (exactValue_of_unpack h).1
  exact unpack_pack_canonical t (canonical_of_unpack h) (hexponent ▸ exponent_ofFloat_le hfinite)

theorem unpack_pack_unpack (x : Float) :
    (Float.Model.pack x.toModel.unpack).unpack = x.toModel.unpack := by
  cases h : x.toModel.unpack with
  | notANumber => rfl
  | infinity s => exact unpack_pack_infinity s
  | zero s => exact unpack_pack_zero s
  | finite s m e hpos => exact unpack_pack_of_unpack h s

/-- A double that is packed from the unpacked form of another one is the other one. -/
theorem eq_of_toModel_eq_pack {x y : Float} (hx : x.isNaN = false)
    (h : y.toModel = Float.Model.pack x.toModel.unpack) : y = x := by
  have hunpack : x.toModel.unpack = y.toModel.unpack := by rw [h, unpack_pack_unpack]
  exact (eq_of_unpack_eq hunpack hx).symm

theorem isZero_of_unpack {x : Float} {s : Sign} (h : x.toModel.unpack = .zero s) : IsZero x :=
  (ofFloat_of_unpack_zero h).2

theorem isFinite_of_isZero {x : Float} (h : IsZero x) : x.isFinite = true := by
  change x.toModel.unpack.isFinite = true
  rw [h.unpack_eq]
  rfl

theorem unpack_of_isFinite {x : Float} (hx : x.isFinite = true) :
    (∃ s, x.toModel.unpack = .zero s) ∨
      ∃ s m e hpos, x.toModel.unpack = .finite s m e hpos := by
  change x.toModel.unpack.isFinite = true at hx
  cases h : x.toModel.unpack with
  | notANumber | infinity s => rw [h] at hx; cases hx
  | zero s => exact Or.inl ⟨s, rfl⟩
  | finite s m e hpos => exact Or.inr ⟨s, m, e, hpos, rfl⟩

theorem unpack_of_not_isFinite {x : Float} (hx : x.isFinite = false) :
    x.toModel.unpack = .notANumber ∨ ∃ s, x.toModel.unpack = .infinity s := by
  change x.toModel.unpack.isFinite = false at hx
  cases h : x.toModel.unpack with
  | notANumber => exact Or.inl rfl
  | infinity s => exact Or.inr ⟨s, rfl⟩
  | zero s | finite s m e hpos => rw [h] at hx; cases hx

/-! ### Operations -/

section

variable (x y : Float)

theorem unpack_add : (x + y).toModel.unpack = (Float.Model.pack
    (UnpackedFloat.add Format.binary64 x.toModel.unpack y.toModel.unpack)).unpack := rfl

theorem unpack_sub : (x - y).toModel.unpack = (Float.Model.pack
    (UnpackedFloat.sub Format.binary64 x.toModel.unpack y.toModel.unpack)).unpack := rfl

theorem unpack_mul : (x * y).toModel.unpack = (Float.Model.pack
    (UnpackedFloat.mul Format.binary64 x.toModel.unpack y.toModel.unpack)).unpack := rfl

theorem unpack_div : (x / y).toModel.unpack = (Float.Model.pack
    (UnpackedFloat.div Format.binary64 x.toModel.unpack y.toModel.unpack)).unpack := rfl

end

theorem floatMul_comm (x y : Float) : x * y = y * x := by
  change Float.ofModel (Float.Model.pack
      (UnpackedFloat.mul Format.binary64 x.toModel.unpack y.toModel.unpack)) =
    Float.ofModel (Float.Model.pack
      (UnpackedFloat.mul Format.binary64 y.toModel.unpack x.toModel.unpack))
  congr 2
  cases x.toModel.unpack with
  | notANumber => cases y.toModel.unpack <;> rfl
  | infinity s | zero s =>
    cases y.toModel.unpack with
    | notANumber => rfl
    | infinity t | zero t | finite t => cases s <;> cases t <;> rfl
  | finite s m e hpos =>
    cases y.toModel.unpack with
    | notANumber => rfl
    | infinity t | zero t => cases s <;> cases t <;> rfl
    | finite t m' e' hpos' =>
      change roundWithAccuracy Format.binary64 (s * t) (m * m') (e + e') .exact =
        roundWithAccuracy Format.binary64 (t * s) (m' * m) (e' + e) .exact
      rw [Nat.mul_comm, Int.add_comm]
      cases s <;> cases t <;> rfl

theorem floatAdd_comm (x y : Float) : x + y = y + x := by
  change Float.ofModel (Float.Model.pack
      (UnpackedFloat.add Format.binary64 x.toModel.unpack y.toModel.unpack)) =
    Float.ofModel (Float.Model.pack
      (UnpackedFloat.add Format.binary64 y.toModel.unpack x.toModel.unpack))
  congr 2
  cases x.toModel.unpack with
  | notANumber => cases y.toModel.unpack <;> rfl
  | infinity s | zero s =>
    cases y.toModel.unpack with
    | notANumber => rfl
    | infinity t | zero t | finite t => cases s <;> cases t <;> rfl
  | finite s m e hpos =>
    cases y.toModel.unpack with
    | notANumber | infinity t | zero t => rfl
    | finite t m' e' hpos' =>
      change normalize Format.binary64 (s.apply (decreaseExponent m e (min e e')).1 +
          t.apply (decreaseExponent m' e' (min e e')).1) (min e e') .positive =
        normalize Format.binary64 (t.apply (decreaseExponent m' e' (min e' e)).1 +
          s.apply (decreaseExponent m e (min e' e)).1) (min e' e) .positive
      rw [Int.min_comm, Int.add_comm]

section

variable {x y z : Float}

/-! ### Zeros -/

theorem add_eq_of_isZero (hx : x.isNaN = false) (hx' : ¬ IsZero x) (hz : IsZero z) :
    x + z = x := by
  refine eq_of_toModel_eq_pack hx ?_
  change Float.Model.pack (UnpackedFloat.add Format.binary64 x.toModel.unpack z.toModel.unpack) = _
  rw [hz.unpack_eq]
  cases h : x.toModel.unpack with
  | zero s => exact absurd (isZero_of_unpack h) hx'
  | _ => rfl

theorem isZero_add (hy : IsZero y) (hz : IsZero z) : IsZero (y + z) := by
  have hunpack := unpack_add y z
  rw [hy.unpack_eq, hz.unpack_eq] at hunpack
  generalize (Dyadic.ofFloat y).sign = s at hunpack
  generalize (Dyadic.ofFloat z).sign = t at hunpack
  cases s <;> cases t <;> exact isZero_of_unpack hunpack

/-- A zero is equal to all zeros, and to nothing else. -/
theorem IsZero.beq_iff (hx : IsZero x) : (x == y) = true ↔ IsZero y := by
  rw [Decimal.beq_iff]
  constructor
  · rintro (⟨rfl, -⟩ | ⟨-, hy⟩)
    · exact hx
    · exact hy
  · exact fun hy ↦ Or.inr ⟨hx, hy⟩

theorem isZero_mul (hx : x.isFinite = true) (hz : IsZero z) : IsZero (x * z) := by
  have hunpack := unpack_mul x z
  rw [hz.unpack_eq] at hunpack
  rcases unpack_of_isFinite hx with ⟨s, h⟩ | ⟨s, m, e, hpos, h⟩ <;> rw [h] at hunpack <;>
    exact isZero_of_unpack (hunpack.trans (unpack_pack_zero _))

theorem isZero_div (hz : IsZero z) (hx : x.isNaN = false) (hx' : ¬ IsZero x) : IsZero (z / x) := by
  have hunpack := unpack_div z x
  change x.toModel.unpack.isNaN = false at hx
  rw [hz.unpack_eq] at hunpack
  cases h : x.toModel.unpack with
  | notANumber => rw [h] at hx; cases hx
  | zero s => exact absurd (isZero_of_unpack h) hx'
  | infinity s | finite s m e hpos =>
    rw [h] at hunpack
    exact isZero_of_unpack (hunpack.trans (unpack_pack_zero _))

/-- Unlike a sum, a difference from which a zero is taken keeps the sign of a zero. -/
theorem floatSub_zero (hx : x.isNaN = false) : x - 0.0 = x := by
  refine eq_of_toModel_eq_pack hx ?_
  change Float.Model.pack
    (UnpackedFloat.sub Format.binary64 x.toModel.unpack (0.0 : Float).toModel.unpack) = _
  rw [unpack_zero]
  cases x.toModel.unpack with
  | zero s => cases s <;> rfl
  | _ => rfl

theorem unpack_sub_of_isZero {s : Sign} {m : Nat} {e : Int} {hpos : 0 < m} (hz : IsZero z)
    (hx : x.toModel.unpack = .finite s m e hpos) :
    (z - x).toModel.unpack = .finite (-s) m e hpos := by
  have hunpack := unpack_sub z x
  rw [hz.unpack_eq, hx] at hunpack
  exact hunpack.trans (unpack_pack_of_unpack hx _)

theorem isZero_sub (hz : IsZero z) (hx : IsZero x) : IsZero (z - x) := by
  have hunpack := unpack_sub z x
  rw [hz.unpack_eq, hx.unpack_eq] at hunpack
  generalize (Dyadic.ofFloat z).sign = s at hunpack
  generalize (Dyadic.ofFloat x).sign = t at hunpack
  cases s <;> cases t <;> exact isZero_of_unpack hunpack

theorem isFinite_sub_of_isZero (hz : IsZero z) (hx : x.isFinite = true) :
    (z - x).isFinite = true := by
  rcases unpack_of_isFinite hx with ⟨s, h⟩ | ⟨s, m, e, hpos, h⟩
  · exact isFinite_of_isZero (isZero_sub hz (isZero_of_unpack h))
  · exact (exactValue_of_unpack (unpack_sub_of_isZero hz h)).1

/-- A number and its opposite have one square. -/
theorem sub_mul_self_of_isZero (hz : IsZero z) (hx : x.isFinite = true) :
    (z - x) * (z - x) = x * x := by
  change Float.ofModel (Float.Model.pack (UnpackedFloat.mul Format.binary64
      (z - x).toModel.unpack (z - x).toModel.unpack)) =
    Float.ofModel (Float.Model.pack (UnpackedFloat.mul Format.binary64
      x.toModel.unpack x.toModel.unpack))
  rcases unpack_of_isFinite hx with ⟨s, h⟩ | ⟨s, m, e, hpos, h⟩
  · rw [(isZero_sub hz (isZero_of_unpack h)).unpack_eq, h]
    cases s <;> cases (Dyadic.ofFloat (z - x)).sign <;> rfl
  · rw [unpack_sub_of_isZero hz h, h]
    cases s <;> rfl

/-! ### Ones -/

theorem mul_unpack_one (s : Sign) {m : Nat} {e : Int} (h : Canonical m e) :
    UnpackedFloat.mul Format.binary64 (.finite s m e h.pos) (1.0 : Float).toModel.unpack =
      .finite s m e h.pos := by
  have hvalue : (m : ℚ) * 2 ^ e * ((2 ^ 52 : Nat) * 2 ^ (-52 : Int)) = m * 2 ^ e := by
    norm_num
  have hone : 0 < 2 ^ 52 := by decide
  have hrounds : Rounds (UnpackedFloat.mul Format.binary64 (.finite s m e h.pos)
      (.finite .positive (2 ^ 52) (-52) hone)) (s * .positive) (m * 2 ^ e) := by
    rw [← hvalue]
    exact rounds_mul h.pos hone (Nat.le_mul_of_pos_left (2 ^ 52) h.pos)
  rw [unpack_one, hrounds.eq_of_roundsTo h (roundsTo_self m e)]
  cases s <;> rfl

theorem floatMul_one (hx : x.isNaN = false) : x * 1.0 = x := by
  refine eq_of_toModel_eq_pack hx ?_
  change Float.Model.pack
    (UnpackedFloat.mul Format.binary64 x.toModel.unpack (1.0 : Float).toModel.unpack) = _
  congr 1
  cases h : x.toModel.unpack with
  | notANumber => rfl
  | infinity s | zero s => rw [unpack_one]; cases s <;> rfl
  | finite s m e hpos => exact mul_unpack_one s (canonical_of_unpack h)

/-! ### NaN -/

theorem isNaN_iff_unpack : x.isNaN = true ↔ x.toModel.unpack = .notANumber := by
  change x.toModel.unpack.isNaN = true ↔ _
  cases x.toModel.unpack with
  | notANumber => exact iff_of_true rfl rfl
  | infinity s | zero s | finite s m e hpos =>
    exact iff_of_false Bool.false_ne_true fun h ↦ nomatch h

theorem isNaN_mul_of_isZero (hx : x.isFinite = false) (hz : IsZero z) : (x * z).isNaN = true := by
  rw [isNaN_iff_unpack, unpack_mul, hz.unpack_eq]
  rcases unpack_of_not_isFinite hx with h | ⟨s, h⟩ <;> rw [h] <;>
    exact unpack_pack_notANumber

theorem isNaN_mul (hx : x.isNaN = true) (y : Float) : (x * y).isNaN = true := by
  rw [isNaN_iff_unpack, unpack_mul, isNaN_iff_unpack.mp hx]
  exact unpack_pack_notANumber

theorem isNaN_div (hx : x.isNaN = true) (y : Float) : (x / y).isNaN = true := by
  rw [isNaN_iff_unpack, unpack_div, isNaN_iff_unpack.mp hx]
  exact unpack_pack_notANumber

theorem isNaN_add (hx : x.isNaN = true) (y : Float) : (x + y).isNaN = true := by
  rw [isNaN_iff_unpack, unpack_add, isNaN_iff_unpack.mp hx]
  exact unpack_pack_notANumber

/-- Neither a NaN nor an infinity comes back from a product by a division. -/
theorem isNaN_mul_div_of_not_finite (hx : x.isFinite = false) (y : Float) :
    (y * x / x).isNaN = true := by
  have hproduct := unpack_mul y x
  rw [isNaN_iff_unpack, unpack_div]
  rcases unpack_of_not_isFinite hx with h | ⟨s, h⟩
  · rw [h]
    cases (y * x).toModel.unpack <;> exact unpack_pack_notANumber
  · rw [h] at hproduct ⊢
    cases hy : y.toModel.unpack with
    | notANumber | zero t =>
      rw [hy] at hproduct
      rw [hproduct.trans unpack_pack_notANumber]
      exact unpack_pack_notANumber
    | infinity t | finite t =>
      rw [hy] at hproduct
      rw [hproduct.trans (unpack_pack_infinity _)]
      exact unpack_pack_notANumber

theorem not_beq_of_isNaN (hx : x.isNaN = true) (y : Float) : ¬ (x == y) = true := by
  rw [beq_iff, not_or]
  constructor
  · rintro ⟨-, h⟩
    rw [hx] at h
    cases h
  · rintro ⟨h, -⟩
    have hzero := h.unpack_eq
    rw [isNaN_iff_unpack.mp hx] at hzero
    cases hzero

/-- A zero adds nothing, though it may change the sign of a zero. -/
theorem add_beq_iff_of_isZero (x y : Float) (hz : IsZero z) :
    (x + z == y) = true ↔ (x == y) = true := by
  cases hx : x.isNaN with
  | true => exact iff_of_false (not_beq_of_isNaN (isNaN_add hx z) y) (not_beq_of_isNaN hx y)
  | false =>
    by_cases hzero : IsZero x
    · rw [(isZero_add hzero hz).beq_iff, hzero.beq_iff]
    · rw [add_eq_of_isZero hx hzero hz]

end

/-! ### Infinities and counts -/

theorem isNaN_of_lt {x y : Float} (h : x < y) : x.isNaN = false ∧ y.isNaN = false := by
  rw [lt_iff_compare] at h
  have hordered := (compare_eq_none_iff x.toModel.unpack y.toModel.unpack).not.mp
    (by rw [h]; exact fun hnone ↦ nomatch hnone)
  rw [not_or, Bool.not_eq_true, Bool.not_eq_true] at hordered
  exact hordered

theorem not_infinity_lt (x : Float) : ¬ 1.0 / 0.0 < x := by
  rw [lt_iff_compare, unpack_infinity]
  cases x.toModel.unpack with
  | infinity s => cases s <;> exact fun h ↦ nomatch h
  | _ => exact fun h ↦ nomatch h

theorem lt_infinity_or_eq {x : Float} (hx : x.isNaN = false) :
    x < 1.0 / 0.0 ∨ x = 1.0 / 0.0 := by
  have hnumber : x.toModel.unpack.isNaN = false := hx
  rw [lt_iff_compare, unpack_infinity]
  cases h : x.toModel.unpack with
  | notANumber => rw [h] at hnumber; cases hnumber
  | infinity s =>
    cases s with
    | negative => exact Or.inl rfl
    | positive => exact Or.inr (eq_of_unpack_eq (h.trans unpack_infinity.symm) hx)
  | zero s | finite s => cases s <;> exact Or.inl rfl

theorem not_lt_negInfinity (x : Float) : ¬ x < -1.0 / 0.0 := by
  rw [lt_iff_compare, unpack_negInfinity]
  cases x.toModel.unpack with
  | notANumber => exact fun h ↦ nomatch h
  | infinity s | zero s | finite s => cases s <;> exact fun h ↦ nomatch h

theorem negInfinity_lt_or_eq {x : Float} (hx : x.isNaN = false) :
    -1.0 / 0.0 < x ∨ x = -1.0 / 0.0 := by
  have hnumber : x.toModel.unpack.isNaN = false := hx
  rw [lt_iff_compare, unpack_negInfinity]
  cases h : x.toModel.unpack with
  | notANumber => rw [h] at hnumber; cases hnumber
  | infinity s =>
    cases s with
    | negative => exact Or.inr (eq_of_unpack_eq (h.trans unpack_negInfinity.symm) hx)
    | positive => exact Or.inl rfl
  | zero s | finite s => cases s <;> exact Or.inl rfl

/-- However great, a count other than zero becomes a number other than zero. -/
theorem ofNat_of_pos {n : Nat} (hn : 0 < n) :
    (Float.ofNat n).isNaN = false ∧ ¬ IsZero (Float.ofNat n) := by
  have hdouble := nearestDouble_iff.mpr (nearestFloat_ofNat n)
  have hone : (1 : ℚ) ≤ n * 10 ^ (0 : Int) := by
    rw [zpow_zero, mul_one]
    exact_mod_cast hn
  generalize Float.ofNat n = x at hdouble
  cases hdouble with
  | zero h =>
    have hsmall : (2 : ℚ) ^ (-1075 : Int) < 1 := zpow_lt_one_of_neg₀ one_lt_two (by norm_num)
    exact absurd hone (h.trans_lt hsmall).not_ge
  | finite hfinite hsign hpos h => exact ⟨isNaN_of_isFinite hfinite, hpos.ne'⟩
  | infinite h =>
    refine ⟨by decide +kernel, fun hzero ↦ ?_⟩
    have hunpack := hzero.unpack_eq
    rw [unpack_infinity] at hunpack
    cases hunpack

end Worksheet.Decimal
