import Worksheet.Proofs.Decimal.NearestDouble

/-!
The order of doubles.

Two doubles are compared by their unpacked forms. The comparison the other way round is the
opposite one (`compare_swap`), and nothing but a NaN is left without an order
(`compare_eq_none_iff`). Two doubles are equal when they are one double other than a NaN, and the
two zeros are equal (`beq_iff`).
-/

set_option autoImplicit false
set_option relaxedAutoImplicit false

open Float.Model Float.Model.UnpackedFloat

namespace Worksheet.Decimal

/-! ### Unpacked doubles -/

theorem swap_compare_then (e e' : Int) (m m' : Nat) :
    ((compare e e').then (compare m m')).swap = (compare e' e).then (compare m' m) := by
  rw [Ordering.swap_then, Int.compare_swap, Nat.compare_swap]

theorem compare_swap (u v : UnpackedFloat) : v.compare u = (u.compare v).map Ordering.swap := by
  cases u with
  | notANumber => cases v <;> rfl
  | infinity s =>
    cases v with
    | infinity t => cases s <;> cases t <;> rfl
    | _ => cases s <;> rfl
  | zero s =>
    cases v with
    | infinity t | finite t => cases t <;> rfl
    | _ => rfl
  | finite s m e h =>
    cases v with
    | notANumber => rfl
    | zero t => cases s <;> rfl
    | infinity t => cases t <;> rfl
    | finite t m' e' h' =>
      cases s <;> cases t
      · exact congrArg some (swap_compare_then e' e m' m ▸ Ordering.swap_swap.symm)
      · rfl
      · rfl
      · exact congrArg some (swap_compare_then e e' m m').symm

theorem compare_eq_none_iff (u v : UnpackedFloat) :
    u.compare v = none ↔ u.isNaN = true ∨ v.isNaN = true := by
  cases u with
  | notANumber => exact iff_of_true rfl (Or.inl rfl)
  | infinity s | zero s | finite s =>
    cases v with
    | notANumber => exact iff_of_true rfl (Or.inr rfl)
    | infinity t | zero t | finite t =>
      refine iff_of_false ?_ (by rintro (h | h) <;> cases h)
      cases s <;> cases t <;> exact fun h ↦ nomatch h

theorem compare_then_eq_eq_iff {e e' : Int} {m m' : Nat} :
    (compare e e').then (compare m m') = .eq ↔ e = e' ∧ m = m' := by
  rw [Ordering.then_eq_eq, compare_eq_iff_eq, compare_eq_iff_eq]

/-- Neither a NaN nor a zero is equal to anything but itself. -/
theorem compare_eq_some_eq_iff (u v : UnpackedFloat) :
    u.compare v = some .eq ↔
      (u = v ∧ u.isNaN = false) ∨ ∃ s t, u = .zero s ∧ v = .zero t := by
  constructor
  · intro h
    cases u with
    | notANumber => cases v <;> cases h
    | infinity s =>
      cases v with
      | infinity t => cases s <;> cases t <;> first | exact Or.inl ⟨rfl, rfl⟩ | cases h
      | _ => cases s <;> cases h
    | zero s =>
      cases v with
      | zero t => exact Or.inr ⟨s, t, rfl, rfl⟩
      | infinity t | finite t => cases t <;> cases h
      | notANumber => cases h
    | finite s m e hm =>
      cases v with
      | finite t m' e' hm' =>
        have hparts : s = t ∧ e = e' ∧ m = m' := by
          cases s <;> cases t
          · have hless := congrArg Ordering.swap (Option.some.inj h)
            rw [Ordering.swap_swap] at hless
            exact ⟨rfl, compare_then_eq_eq_iff.mp hless⟩
          · cases h
          · cases h
          · exact ⟨rfl, compare_then_eq_eq_iff.mp (Option.some.inj h)⟩
        exact Or.inl ⟨finite_congr hm hm' hparts.1 hparts.2.2 hparts.2.1, rfl⟩
      | infinity t => cases t <;> cases h
      | zero t => cases s <;> cases h
      | notANumber => cases h
  · rintro (⟨rfl, hu⟩ | ⟨s, t, rfl, rfl⟩)
    · cases u with
      | notANumber => cases hu
      | infinity s => cases s <;> rfl
      | zero s => rfl
      | finite s m e hm =>
        have hself : (compare e e).then (compare m m) = .eq :=
          compare_then_eq_eq_iff.mpr ⟨rfl, rfl⟩
        cases s
        · exact congrArg (some ∘ Ordering.swap) hself
        · exact congrArg some hself
    · rfl

/-! ### Doubles -/

theorem beq_iff_compare (x y : Float) :
    (x == y) = true ↔ x.toModel.unpack.compare y.toModel.unpack = some .eq := by
  change (x.toModel.unpack.compare y.toModel.unpack == some .eq) = true ↔ _
  exact beq_iff_eq

theorem lt_iff_compare (x y : Float) :
    x < y ↔ x.toModel.unpack.compare y.toModel.unpack = some .lt := by
  change decide ((x.toModel.unpack.compare y.toModel.unpack == some .lt) = true) = true ↔ _
  rw [decide_eq_true_iff]
  exact beq_iff_eq

/-- The parts that the bits of an infinity are read as. -/
theorem ofFloat_of_unpack_infinity {x : Float} {s : Sign} (h : x.toModel.unpack = .infinity s) :
    (Dyadic.ofFloat x).sign = s ∧ (Dyadic.ofFloat x).significand = 2 ^ 52 ∧
      (Dyadic.ofFloat x).exponent = 972 := by
  have hfield : (unpackExponent (packedBits x)).toNat = x.toBits.toNat / 2 ^ 52 % 2 ^ 11 :=
    toNat_unpackExponent _
  have hfraction : (unpackMantissa (packedBits x)).toNat = x.toBits.toNat % 2 ^ 52 :=
    toNat_unpackMantissa _
  have hreads := reads_unpack x
  rw [h] at hreads
  refine ⟨by cases hreads; rfl, ?_⟩
  unfold Float.Model.unpack UnpackedFloat.unpack at h
  dsimp only at h
  by_cases hones : unpackExponent (packedBits x) = -1#11
  · rw [if_pos hones] at h
    by_cases hzero : unpackMantissa (packedBits x) = 0#52
    · rw [hones] at hfield
      rw [hzero] at hfraction
      change 2047 = _ at hfield
      change 0 = _ at hfraction
      rw [Dyadic.significand_ofFloat, Dyadic.exponent_ofFloat, ← hfield, ← hfraction]
      exact ⟨rfl, rfl⟩
    · rw [if_neg hzero] at h
      cases h
  · rw [if_neg hones] at h
    by_cases hsubnormal : unpackExponent (packedBits x) = 0#11
    · rw [if_pos hsubnormal] at h
      by_cases hzero : unpackMantissa (packedBits x) = 0#52
      · rw [dif_pos hzero] at h
        cases h
      · rw [dif_neg hzero] at h
        cases h
    · rw [if_neg hsubnormal] at h
      cases h

/-- A zero of either sign. -/
def IsZero (x : Float) : Prop := (Dyadic.ofFloat x).significand = 0

theorem ofFloat_of_unpack_zero {x : Float} {s : Sign} (h : x.toModel.unpack = .zero s) :
    (Dyadic.ofFloat x).sign = s ∧ IsZero x := by
  have hreads := reads_unpack x
  rw [h] at hreads
  cases hreads with
  | zero hzero => exact ⟨rfl, hzero⟩

theorem IsZero.exponent_eq {x : Float} (h : IsZero x) : (Dyadic.ofFloat x).exponent = -1074 :=
  (Dyadic.ofFloat_canonical x).resolve_left (by rw [h]; decide)

/-- The bits of a zero are zero but for the sign. -/
theorem IsZero.unpack_eq {x : Float} (h : IsZero x) :
    x.toModel.unpack = .zero (Dyadic.ofFloat x).sign := by
  have hsignificand : (Dyadic.ofFloat x).significand = 0 := h
  rw [Dyadic.significand_ofFloat] at hsignificand
  have hfield : unpackExponent (packedBits x) = 0#11 := by
    apply BitVec.eq_of_toNat_eq
    rw [toNat_unpackExponent]
    change x.toBits.toNat / 2 ^ 52 % 2 ^ 11 = 0
    split at hsignificand <;> omega
  have hfraction : unpackMantissa (packedBits x) = 0#52 := by
    apply BitVec.eq_of_toNat_eq
    rw [toNat_unpackMantissa]
    change x.toBits.toNat % 2 ^ 52 = 0
    split at hsignificand <;> omega
  unfold Float.Model.unpack UnpackedFloat.unpack
  dsimp only
  rw [ofBitVec_unpackSign, hfield, if_neg (by decide), if_pos rfl, dif_pos hfraction]

theorem exists_unpack_eq_zero_iff (x : Float) : (∃ s, x.toModel.unpack = .zero s) ↔ IsZero x :=
  ⟨fun ⟨_, h⟩ ↦ (ofFloat_of_unpack_zero h).2, fun h ↦ ⟨_, h.unpack_eq⟩⟩

/-- A double that is no NaN is determined by its unpacked form. -/
theorem eq_of_unpack_eq {x y : Float} (h : x.toModel.unpack = y.toModel.unpack)
    (hx : x.isNaN = false) : x = y := by
  cases hu : x.toModel.unpack with
  | notANumber =>
    change x.toModel.unpack.isNaN = false at hx
    rw [hu] at hx
    cases hx
  | infinity s =>
    obtain ⟨hs, hm, he⟩ := ofFloat_of_unpack_infinity hu
    obtain ⟨hs', hm', he'⟩ := ofFloat_of_unpack_infinity (h.symm.trans hu)
    exact eq_of_parts (hs.trans hs'.symm) (hm.trans hm'.symm) (he.trans he'.symm)
  | zero s =>
    obtain ⟨hs, hzero⟩ := ofFloat_of_unpack_zero hu
    obtain ⟨hs', hzero'⟩ := ofFloat_of_unpack_zero (h.symm.trans hu)
    exact eq_of_parts (hs.trans hs'.symm) (hzero.trans hzero'.symm)
      (hzero.exponent_eq.trans hzero'.exponent_eq.symm)
  | finite s m e hpos =>
    obtain ⟨hs, hm, he⟩ := ofFloat_of_unpack (h.symm.trans hu)
    exact eq_of_unpack hu hs hm he

/-- Equal doubles are one double, or zeros of either sign. -/
theorem beq_iff (x y : Float) :
    (x == y) = true ↔ (x = y ∧ x.isNaN = false) ∨ (IsZero x ∧ IsZero y) := by
  rw [beq_iff_compare, compare_eq_some_eq_iff, ← exists_unpack_eq_zero_iff, ←
    exists_unpack_eq_zero_iff]
  constructor
  · rintro (⟨heq, hnumber⟩ | ⟨s, t, hs, ht⟩)
    · exact Or.inl ⟨eq_of_unpack_eq heq hnumber, hnumber⟩
    · exact Or.inr ⟨⟨s, hs⟩, t, ht⟩
  · rintro (⟨rfl, hnumber⟩ | ⟨⟨s, hs⟩, t, ht⟩)
    · exact Or.inl ⟨rfl, hnumber⟩
    · exact Or.inr ⟨s, t, hs, ht⟩

/-- A double other than a NaN equals itself. -/
theorem beq_self_iff (x : Float) : (x == x) = true ↔ x.isNaN = false := by
  rw [beq_iff, and_iff_right rfl, and_self, or_iff_left_iff_imp, ← exists_unpack_eq_zero_iff]
  rintro ⟨s, hs⟩
  change x.toModel.unpack.isNaN = false
  rw [hs]
  rfl

end Worksheet.Decimal
