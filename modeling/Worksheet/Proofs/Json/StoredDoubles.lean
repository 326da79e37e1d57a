import Worksheet.Proofs.Decimal.NearestDouble
import Worksheet.Proofs.Decimal.ShortestDecimal
import Worksheet.Proofs.Json.StoredText

/-!
Doubles read back from their stored form.

A finite double is stored as a number whose digits and exponent stand for its shortest decimal
(`exists_numeral_write`). The shortest decimal rounds to the double and to no other, so that a
reader which takes the nearest double reads every finite double back (`readsBack_nearestDouble?`).
-/

set_option autoImplicit false
set_option relaxedAutoImplicit false

open Float.Model Float.Model.UnpackedFloat

namespace Worksheet.Decimal

/-! ### The value of a stored number -/

theorem Numeral.toFloat?_of_storable {n : Numeral} (h : n.Storable) :
    n.toFloat? = some (if n.negative then -nearestFloat n.mantissa n.power
      else nearestFloat n.mantissa n.power) := by
  refine toFloat?_eq_some_iff.mpr ⟨fun c hc ↦ (isDigit_iff c).mp ?_, rfl⟩
  simp only [List.mem_append] at hc
  rcases hc with (hc | hc) | hc
  · exact h.whole c hc
  · exact h.fraction c hc
  · exact h.exponent c hc

/-! ### Layouts -/

/-- Digits that stand for a positive number. -/
structure PositiveDigits (ds : List Char) : Prop where
  digit : ∀ c ∈ ds, Json.Lexer.isDigit c = true
  leading : ∃ d rest, ds = d :: rest ∧ d ≠ '0'

theorem positiveDigits_natText {n : Nat} (hn : 0 < n) : PositiveDigits (natText n) :=
  ⟨fun _ ↦ isDigit_of_mem_natText, exists_natText_of_pos hn⟩

theorem isDigit_of_mem_replicate {k : Nat} {c : Char} (hc : c ∈ List.replicate k '0') :
    Json.Lexer.isDigit c = true := by
  rw [List.eq_of_mem_replicate hc]
  decide

/-- Two runs of digits around a point, and the number that they stand for. -/
structure Placed (cs whole fraction : List Char) (value : ℚ) : Prop where
  text : cs = whole ++ '.' :: fraction
  digit : ∀ c ∈ whole ++ fraction, Json.Lexer.isDigit c = true
  leading : whole = ['0'] ∨ ∃ d rest, whole = d :: rest ∧ d ≠ '0'
  fraction_ne_nil : fraction ≠ []
  value_eq : (Nat.ofDigitChars 10 (whole ++ fraction) 0 : ℚ) * 10 ^ (-(fraction.length : Int)) =
    value

namespace PositiveDigits

variable {ds : List Char} (h : PositiveDigits ds) {p : Int}

include h

theorem ne_nil : ds ≠ [] := by
  obtain ⟨d, rest, rfl, -⟩ := h.leading
  exact List.cons_ne_nil d rest

/-- The point stands before the digits. -/
theorem placed_before (hp : p ≤ 0) :
    Placed (place true ds p) ['0'] (List.replicate (-p).toNat '0' ++ ds)
      (Nat.ofDigitChars 10 ds 0 * 10 ^ (p - ds.length)) where
  text := if_pos hp
  digit c hc := by
    rw [List.mem_append, List.mem_append, List.mem_singleton] at hc
    rcases hc with rfl | hc | hc
    · decide
    · exact isDigit_of_mem_replicate hc
    · exact h.digit c hc
  leading := Or.inl rfl
  fraction_ne_nil := List.append_ne_nil_of_right_ne_nil _ h.ne_nil
  value_eq := by
    have hmantissa : Nat.ofDigitChars 10 (['0'] ++ (List.replicate (-p).toNat '0' ++ ds)) 0 =
        Nat.ofDigitChars 10 ds 0 := by
      rw [Nat.ofDigitChars_append, Nat.ofDigitChars_append, Nat.ofDigitChars_replicate_zero]
      rfl
    rw [hmantissa, List.length_append, List.length_replicate]
    congr 2
    omega

/-- The point stands behind the digits. -/
theorem placed_behind (hp : (ds.length : Int) ≤ p) :
    Placed (place true ds p) (ds ++ List.replicate (p.toNat - ds.length) '0') ['0']
      (Nat.ofDigitChars 10 ds 0 * 10 ^ (p - ds.length)) where
  text := by
    have hpos := List.length_pos_iff.mpr h.ne_nil
    unfold place
    rw [if_neg (by omega), if_pos hp, if_pos rfl]
  digit c hc := by
    rw [List.mem_append, List.mem_append, List.mem_singleton] at hc
    rcases hc with (hc | hc) | rfl
    · exact h.digit c hc
    · exact isDigit_of_mem_replicate hc
    · decide
  leading := by
    obtain ⟨d, rest, rfl, hd⟩ := h.leading
    exact Or.inr ⟨d, _, rfl, hd⟩
  fraction_ne_nil := List.cons_ne_nil _ _
  value_eq := by
    have hmantissa :
        Nat.ofDigitChars 10 (ds ++ List.replicate (p.toNat - ds.length) '0' ++ ['0']) 0 =
          10 * (10 ^ (p.toNat - ds.length) * Nat.ofDigitChars 10 ds 0) := by
      rw [Nat.ofDigitChars_append, Nat.ofDigitChars_append, Nat.ofDigitChars_replicate_zero,
        Nat.ofDigitChars_cons, Nat.ofDigitChars_nil]
      rfl
    have hexponent : p - ds.length = ((p.toNat - ds.length : Nat) : Int) := by omega
    rw [hmantissa, hexponent, zpow_natCast]
    push_cast
    rw [List.length_singleton, Nat.cast_one, zpow_neg_one]
    field_simp

/-- The point stands among the digits. -/
theorem placed_among (hp : 0 < p) (hp' : p < ds.length) :
    Placed (place true ds p) (ds.take p.toNat) (ds.drop p.toNat)
      (Nat.ofDigitChars 10 ds 0 * 10 ^ (p - ds.length)) where
  text := by
    unfold place
    rw [if_neg (by omega), if_neg (by omega)]
  digit c hc := by
    rw [List.take_append_drop] at hc
    exact h.digit c hc
  leading := by
    obtain ⟨d, rest, rfl, hd⟩ := h.leading
    obtain ⟨k, hk⟩ : ∃ k, p.toNat = k + 1 := ⟨p.toNat - 1, by omega⟩
    exact Or.inr ⟨d, rest.take k, by rw [hk, List.take_succ_cons], hd⟩
  fraction_ne_nil := by
    rw [Ne, List.drop_eq_nil_iff]
    omega
  value_eq := by
    rw [List.take_append_drop, List.length_drop]
    congr 2
    omega

theorem exists_placed (p : Int) : ∃ whole fraction,
    Placed (place true ds p) whole fraction
      (Nat.ofDigitChars 10 ds 0 * 10 ^ (p - ds.length)) := by
  rcases Int.lt_or_le 0 p with hpos | hle
  · rcases Int.lt_or_le p ds.length with hlt | hge
    · exact ⟨_, _, h.placed_among hpos hlt⟩
    · exact ⟨_, _, h.placed_behind hge⟩
  · exact ⟨_, _, h.placed_before hle⟩

end PositiveDigits

/-- A stored number with the sign, the text and the value that are asked for. -/
structure Numeral.Stores (n : Numeral) (negative : Bool) (cs : List Char) (value : ℚ) : Prop where
  storable : n.Storable
  negative_eq : n.negative = negative
  text_eq : n.text = (if negative then ['-'] else []) ++ cs
  value_eq : (n.mantissa : ℚ) * 10 ^ n.power = value

theorem Placed.stores {cs whole fraction : List Char} {value : ℚ}
    (h : Placed cs whole fraction value) (negative : Bool) :
    Numeral.Stores ⟨negative, whole, fraction, false, []⟩ negative cs value where
  storable :=
    { whole := fun c hc ↦ h.digit c (List.mem_append_left _ hc)
      fraction := fun c hc ↦ h.digit c (List.mem_append_right _ hc)
      exponent := fun c hc ↦ nomatch hc
      leading := h.leading
      exponentSign := fun _ ↦ rfl }
  negative_eq := rfl
  text_eq := by
    have hpoint : Numeral.fractionText fraction = '.' :: fraction :=
      if_neg (by simpa using h.fraction_ne_nil)
    have hexponent : Numeral.exponentText false [] = [] := rfl
    rw [Numeral.text, hpoint, hexponent, List.append_nil, h.text]
  value_eq := by
    rw [← h.value_eq, Numeral.mantissa, Numeral.power]
    simp

/-- The exponent notation of digits whose point stands behind the first `p` of them: one digit in
front of the point, and the other places in the exponent. -/
def scientificNumeral (negative : Bool) (ds : List Char) (p : Int) : Numeral :=
  ⟨negative, ds.take 1, ds.drop 1, decide (p - 1 < 0), natText (p - 1).natAbs⟩

section

variable (negative : Bool) (ds : List Char) (p : Int)

theorem text_scientificNumeral :
    (scientificNumeral negative ds p).text =
      (if negative then ['-'] else []) ++ scientific true ds p := by
  have hpoint : Numeral.fractionText (ds.drop 1) =
      if ds.length ≤ 1 then [] else '.' :: ds.drop 1 := by
    simp only [Numeral.fractionText, List.isEmpty_iff, List.drop_eq_nil_iff]
  have hexponent : Numeral.exponentText (decide (p - 1 < 0)) (natText (p - 1).natAbs) =
      'e' :: ((if true && decide (0 ≤ p - 1) then ['+'] else []) ++ integerText (p - 1)) := by
    unfold Numeral.exponentText integerText
    rw [if_neg (by rw [List.isEmpty_iff]; exact Nat.toDigits_ne_nil)]
    by_cases hneg : p - 1 < 0
    · rw [decide_eq_true hneg, decide_eq_false (by omega), if_pos hneg]
      rfl
    · rw [decide_eq_false hneg, decide_eq_true (by omega), if_neg hneg]
      rfl
  unfold scientificNumeral Numeral.text scientific
  dsimp only
  rw [hpoint, hexponent, List.append_assoc]

theorem mantissa_scientificNumeral :
    (scientificNumeral negative ds p).mantissa = Nat.ofDigitChars 10 ds 0 := by
  rw [scientificNumeral, Numeral.mantissa, List.take_append_drop]

theorem power_scientificNumeral (hds : ds ≠ []) :
    (scientificNumeral negative ds p).power = p - ds.length := by
  have hlength := List.length_pos_iff.mpr hds
  have hdigits : Nat.ofDigitChars 10 (natText (p - 1).natAbs) 0 = (p - 1).natAbs :=
    Nat.ofDigitChars_ten_toDigits
  rw [scientificNumeral, Numeral.power]
  dsimp only
  rw [hdigits, List.length_drop]
  by_cases hneg : p - 1 < 0
  · rw [decide_eq_true hneg, if_pos rfl]
    omega
  · rw [decide_eq_false hneg, if_neg Bool.false_ne_true]
    omega

end

theorem PositiveDigits.stores_scientific {ds : List Char} (h : PositiveDigits ds) (p : Int)
    (negative : Bool) :
    (scientificNumeral negative ds p).Stores negative (scientific true ds p)
      (Nat.ofDigitChars 10 ds 0 * 10 ^ (p - ds.length)) where
  storable :=
    { whole := fun c hc ↦ h.digit c (List.mem_of_mem_take hc)
      fraction := fun c hc ↦ h.digit c (List.mem_of_mem_drop hc)
      exponent := fun c hc ↦ isDigit_of_mem_natText hc
      leading := by
        obtain ⟨d, rest, rfl, hd⟩ := h.leading
        exact Or.inr ⟨d, [], rfl, hd⟩
      exponentSign := fun hnil ↦ absurd hnil Nat.toDigits_ne_nil }
  negative_eq := rfl
  text_eq := text_scientificNumeral negative ds p
  value_eq := by rw [mantissa_scientificNumeral, power_scientificNumeral negative ds p h.ne_nil]

/-! ### The stored form of a double -/

theorem digits_shortest_pos {d : Dyadic} (h : d.IsCanonical) (tie : Tie) :
    0 < (shortest tie d).digits :=
  pos_of_roundsTo h.pos (roundsTo_shortest h tie)

/-- Whatever its digits and its point position, a positive number is written as a numeral. -/
def Layout.Legible (layout : Layout) : Prop :=
  ∀ ds, PositiveDigits ds → ∀ (p : Int) (negative : Bool), ∃ n : Numeral,
    n.Stores negative
      (if layout.positional p then place layout.pointZero ds p
        else scientific layout.exponentPlus ds p)
      (Nat.ofDigitChars 10 ds 0 * 10 ^ (p - ds.length))

theorem legible_stored : Layout.stored.Legible := by
  intro ds h p negative
  split
  · obtain ⟨whole, fraction, hplaced⟩ := h.exists_placed p
    exact ⟨_, hplaced.stores negative⟩
  · exact ⟨_, h.stores_scientific p negative⟩

/-- A finite double other than zero is written as its shortest decimal. -/
theorem exists_numeral_write {layout : Layout} (hlayout : layout.Legible) {x : Float}
    (hfinite : x.isFinite = true) (hpos : 0 < (Dyadic.ofFloat x).significand) :
    ∃ n : Numeral, n.Storable ∧ (layout.write x).toList = n.text ∧
      n.negative = (Dyadic.ofFloat x).negative ∧
      RoundsTo (Dyadic.ofFloat x).significand (Dyadic.ofFloat x).exponent
        (n.mantissa * 10 ^ n.power) := by
  obtain ⟨d, hd⟩ : ∃ d, d = Dyadic.ofFloat x := ⟨_, rfl⟩
  have hcanonical : d.IsCanonical := hd ▸ isCanonical_ofFloat hpos
  obtain ⟨s, hs⟩ : ∃ s, s = shortest layout.tie d := ⟨_, rfl⟩
  have hdigits : PositiveDigits (natText s.digits) :=
    positiveDigits_natText (hs ▸ digits_shortest_pos hcanonical layout.tie)
  obtain ⟨p, hp⟩ : ∃ p : Int, p = (natText s.digits).length + s.exponent := ⟨_, rfl⟩
  have hvalue : (Nat.ofDigitChars 10 (natText s.digits) 0 : ℚ) *
      10 ^ (p - (natText s.digits).length) = s.digits * 10 ^ s.exponent := by
    rw [natText, Nat.ofDigitChars_ten_toDigits, ← natText]
    congr 2
    omega
  have hrounds : RoundsTo d.significand d.exponent (s.digits * 10 ^ s.exponent) :=
    hs ▸ roundsTo_shortest hcanonical layout.tie
  have hwrite : (layout.write x).toList = (if d.negative then ['-'] else []) ++
      if layout.positional p then place layout.pointZero (natText s.digits) p
      else scientific layout.exponentPlus (natText s.digits) p := by
    unfold Layout.write
    rw [isNaN_of_isFinite hfinite, if_neg Bool.false_ne_true, ← hd]
    dsimp only
    rw [String.toList_ofList, hfinite, if_pos rfl]
    unfold Layout.magnitude
    rw [if_neg hcanonical.pos.ne', hp, hs]
    rfl
  obtain ⟨n, hstores⟩ := hlayout _ hdigits p d.negative
  rw [← hstores.text_eq] at hwrite
  rw [← hd]
  exact ⟨n, hstores.storable, hwrite, hstores.negative_eq,
    by rw [hstores.value_eq, hvalue]; exact hrounds⟩

namespace Numeral

def zero (negative : Bool) : Numeral where
  negative
  whole := ['0']
  fraction := ['0']
  exponentNegative := false
  exponent := []

theorem storable_zero (negative : Bool) : (zero negative).Storable where
  whole := List.forall_mem_singleton.mpr (by decide)
  fraction := List.forall_mem_singleton.mpr (by decide)
  exponent c hc := nomatch hc
  leading := Or.inl rfl
  exponentSign _ := rfl

end Numeral

/-- A number without a fraction and without a point. -/
theorem stores_whole {whole : List Char} (hdigit : ∀ c ∈ whole, Json.Lexer.isDigit c = true)
    (hleading : whole = ['0'] ∨ ∃ d ds, whole = d :: ds ∧ d ≠ '0') (negative : Bool) :
    Numeral.Stores ⟨negative, whole, [], false, []⟩ negative whole
      (Nat.ofDigitChars 10 whole 0 : Nat) where
  storable :=
    { whole := hdigit
      fraction := fun c hc ↦ nomatch hc
      exponent := fun c hc ↦ nomatch hc
      leading := hleading
      exponentSign := fun _ ↦ rfl }
  negative_eq := rfl
  text_eq := congrArg _ (List.append_nil whole)
  value_eq := by
    rw [Numeral.mantissa, List.append_nil]
    exact mul_one _

/-- A zero is written as a numeral, with its point and without. -/
theorem exists_stores_zero (pointZero negative : Bool) :
    ∃ n : Numeral, n.Stores negative (place pointZero ['0'] 1) 0 := by
  cases pointZero with
  | false =>
    have hdigit : ∀ c ∈ ['0'], Json.Lexer.isDigit c = true :=
      List.forall_mem_singleton.mpr (by decide)
    exact ⟨_, Nat.cast_zero (R := ℚ) ▸ stores_whole hdigit (Or.inl rfl) negative⟩
  | true => exact ⟨Numeral.zero negative, Numeral.storable_zero negative, rfl, rfl, zero_mul _⟩

/-- A zero is written with its sign. -/
theorem toList_write_of_zero (layout : Layout) {x : Float} (hfinite : x.isFinite = true)
    (hzero : (Dyadic.ofFloat x).significand = 0) :
    (layout.write x).toList =
      (if (Dyadic.ofFloat x).negative then ['-'] else []) ++ place layout.pointZero ['0'] 1 := by
  unfold Layout.write
  rw [isNaN_of_isFinite hfinite, if_neg Bool.false_ne_true]
  dsimp only
  rw [String.toList_ofList, hfinite, if_pos rfl]
  unfold Layout.magnitude
  rw [if_pos hzero]

/-! ### Reading a stored double -/

theorem unpack_neg {y : Float} {m : Nat} {e : Int} (h : Canonical m e) (he : e ≤ 971)
    (hy : y.toModel.unpack = .finite .positive m e h.pos) :
    (-y).toModel.unpack = .finite .negative m e h.pos := by
  change UnpackedFloat.unpack Format.binary64
    (UnpackedFloat.pack Format.binary64 y.toModel.unpack.neg) = _
  rw [hy]
  exact unpack_pack_canonical .negative h he

/-- A number that rounds to a double up to its sign is read as the double. -/
theorem toFloat?_of_roundsTo {x : Float} (hfinite : x.isFinite = true)
    (hpos : 0 < (Dyadic.ofFloat x).significand) {n : Numeral} (hn : n.Storable)
    (hnegative : n.negative = (Dyadic.ofFloat x).negative)
    (hrounds : RoundsTo (Dyadic.ofFloat x).significand (Dyadic.ofFloat x).exponent
      (n.mantissa * 10 ^ n.power)) :
    n.toFloat? = some x := by
  have hcanonical := isCanonical_ofFloat hpos
  have hexponent := exponent_ofFloat_le hfinite
  have hmantissa : 0 < n.mantissa := pos_of_roundsTo hpos hrounds
  have hnearest := unpack_nearestFloat hcanonical hexponent hmantissa hrounds
  rw [Numeral.toFloat?_of_storable hn, hnegative]
  congr 1
  cases hsign : (Dyadic.ofFloat x).negative with
  | false =>
    rw [if_neg Bool.false_ne_true]
    exact eq_of_unpack hnearest (by rw [Dyadic.sign, hsign]; rfl) rfl rfl
  | true =>
    rw [if_pos rfl]
    exact eq_of_unpack (unpack_neg hcanonical hexponent hnearest)
      (by rw [Dyadic.sign, hsign]; rfl) rfl rfl

/-- Zeros of either sign are read as they are, however many digits they are written with. -/
theorem toFloat?_of_zero {x : Float} (hzero : (Dyadic.ofFloat x).significand = 0) {n : Numeral}
    (hn : n.Storable) (hnegative : n.negative = (Dyadic.ofFloat x).negative)
    (hmantissa : n.mantissa = 0) : n.toFloat? = some x := by
  have hexponent : (Dyadic.ofFloat x).exponent = -1074 :=
    (Dyadic.ofFloat_canonical x).resolve_left (by omega)
  have hmagnitude : nearestFloat 0 n.power = 0.0 :=
    nearestFloat_of_small (by rw [Nat.cast_zero, zero_mul]; positivity)
  have hread : ∀ negative : Bool, Dyadic.ofFloat (if negative then -0.0 else 0.0) =
      ⟨negative, 0, -1074⟩ := by decide +kernel
  have hx : ⟨(Dyadic.ofFloat x).negative, 0, -1074⟩ = Dyadic.ofFloat x := by
    rw [← hzero, ← hexponent]
  rw [Numeral.toFloat?_of_storable hn, hmantissa, hmagnitude, hnegative]
  exact congrArg some (Dyadic.ofFloat_injective ((hread _).trans hx))

/-- A finite double is written as a numeral that is read as the double. -/
theorem exists_numeral_of_isFinite {layout : Layout} (hlayout : layout.Legible) {x : Float}
    (hfinite : x.isFinite = true) :
    ∃ n : Numeral, n.Storable ∧ (layout.write x).toList = n.text ∧ n.toFloat? = some x := by
  rcases Nat.eq_zero_or_pos (Dyadic.ofFloat x).significand with hzero | hpos
  · obtain ⟨n, hn⟩ := exists_stores_zero layout.pointZero (Dyadic.ofFloat x).negative
    have hpower : (10 : ℚ) ^ n.power ≠ 0 := by positivity
    have hmantissa : n.mantissa = 0 := by
      exact_mod_cast (mul_eq_zero.mp hn.value_eq).resolve_right hpower
    exact ⟨n, hn.storable, (toList_write_of_zero layout hfinite hzero).trans hn.text_eq.symm,
      toFloat?_of_zero hzero hn.storable hn.negative_eq hmantissa⟩
  · obtain ⟨n, hn, hwrite, hnegative, hrounds⟩ := exists_numeral_write hlayout hfinite hpos
    exact ⟨n, hn, hwrite, toFloat?_of_roundsTo hfinite hpos hn hnegative hrounds⟩

end Worksheet.Decimal

namespace Worksheet.Json

open Decimal

theorem exists_numeral_ofFloat {x : Float} (hfinite : x.isFinite = true) :
    ∃ n : Numeral, n.Storable ∧ (Layout.stored.write x).toList = n.text ∧ n.toFloat? = some x :=
  exists_numeral_of_isFinite legible_stored hfinite

/-- Every finite double is read back from its stored form, bit for bit. -/
def DoubleReader.ReadsBack (read : DoubleReader) : Prop :=
  ∀ x : Float, x.isFinite = true → read (Layout.stored.write x).toList = some x

theorem readsBack_nearestDouble? : DoubleReader.ReadsBack nearestDouble? := by
  intro x hfinite
  obtain ⟨n, hn, hwrite, hread⟩ := exists_numeral_ofFloat hfinite
  unfold nearestDouble?
  rw [hwrite, Numeral.scan_text hn, Option.bind_some]
  dsimp only
  rw [hread, Option.bind_some, if_pos hfinite]

theorem float?_ofFloat {read : DoubleReader} (h : read.ReadsBack) {x : Float}
    (hfinite : x.isFinite = true) : float? read (ofFloat x) = some x := by
  unfold ofFloat
  rw [if_pos hfinite]
  exact h x hfinite

theorem storable_ofFloat (x : Float) : (ofFloat x).Storable := by
  unfold ofFloat
  split
  · next hfinite =>
    obtain ⟨n, hn, hwrite, -⟩ := exists_numeral_ofFloat hfinite
    rw [hwrite]
    exact .number n hn
  · exact .null

end Worksheet.Json
