import Worksheet.Proofs.Decimal.NearestDouble
import Worksheet.Proofs.Decimal.Numerals
import Worksheet.Proofs.Text.Trimming

/-!
Numbers read from text.

A text begins with the longest numeral behind its blanks (`BeginsWith`), or it is a numeral between
blanks (`ConsistsOf`). Each of the two patterns takes what is so described
(`leadingNumeral?_eq_some_iff`, `wholeNumeral?_eq_some_iff`), and the number is the double of the
numeral, provided that its digits are ASCII digits (`numbers_of_text`). The two readings agree
because no numeral has a blank in it: behind the numeral that a text consists of nothing is left to
scan but the blanks.
-/

set_option autoImplicit false
set_option relaxedAutoImplicit false

namespace Worksheet.Decimal

open Worksheet.Text

/-! ### Blanks -/

theorem isBlank_of_isDigit {c : Char} (h : isDigit c = true) : isBlank c = false := by
  obtain ⟨start, hmem, hrange⟩ := List.any_eq_true.mp h
  simp only [Bool.and_eq_true, decide_eq_true_eq] at hrange
  obtain ⟨k, hk⟩ := Nat.exists_eq_add_of_le hrange.1
  have hruns : ∀ start ∈ digitZeros, ∀ k < 10, isBlank (Char.ofNat (start + k)) = false := by
    decide +kernel
  have hc := hruns start hmem k (by omega)
  rwa [← hk, Char.ofNat_toNat] at hc

/-- No character is a blank. -/
def Unblank (cs : List Char) : Prop := ∀ c ∈ cs, isBlank c = false

theorem unblank_append {cs ds : List Char} :
    Unblank (cs ++ ds) ↔ Unblank cs ∧ Unblank ds := List.forall_mem_append

theorem unblank_cons {c : Char} {cs : List Char} :
    Unblank (c :: cs) ↔ isBlank c = false ∧ Unblank cs := List.forall_mem_cons

theorem unblank_of_isDigit {ds : List Char} (h : ∀ c ∈ ds, isDigit c = true) : Unblank ds :=
  fun c hc ↦ isBlank_of_isDigit (h c hc)

theorem SpellsSign.unblank {negative : Bool} {sign : List Char} (h : SpellsSign negative sign) :
    Unblank sign := by
  cases h <;> simp [Unblank, isBlank]

theorem SpellsMantissa.unblank {whole fraction mantissa : List Char}
    (h : SpellsMantissa whole fraction mantissa) : Unblank mantissa := by
  have hpoint : isBlank '.' = false := by decide
  cases h with
  | whole h => exact unblank_of_isDigit h.digit
  | point h hf =>
    exact unblank_append.mpr
      ⟨unblank_of_isDigit h.digit, unblank_cons.mpr ⟨hpoint, unblank_of_isDigit hf⟩⟩
  | fraction h => exact unblank_cons.mpr ⟨hpoint, unblank_of_isDigit h.digit⟩

theorem SpellsExponent.unblank {negative : Bool} {ds exponent : List Char}
    (h : SpellsExponent negative ds exponent) : Unblank exponent := by
  cases h with
  | none => exact fun _ hc ↦ nomatch hc
  | some hmark hsign h =>
    refine unblank_cons.mpr
      ⟨?_, unblank_append.mpr ⟨hsign.unblank, unblank_of_isDigit h.digit⟩⟩
    rcases hmark with rfl | rfl <;> decide

theorem IsNumeral.unblank {t : List Char} (h : IsNumeral t) : Unblank t := by
  obtain ⟨n, hsign, hmantissa, hexponent⟩ := h
  exact unblank_append.mpr
    ⟨hsign.unblank, unblank_append.mpr ⟨hmantissa.unblank, hexponent.unblank⟩⟩

/-! ### The double of a numeral -/

/-- The nearest double, under the sign that is written. -/
def Numeral.Denotes (n : Numeral) (x : Float) : Prop :=
  ∃ y, NearestDouble (n.mantissa * 10 ^ n.power) y ∧ (if n.negative then -y else y) = x

/-- The double that a text of the grammar stands for. -/
def IsDoubleOf (t : List Char) (x : Float) : Prop := ∃ n : Numeral, n.Spells t ∧ n.Denotes x

theorem Numeral.toFloat?_eq_some_iff_denotes {n : Numeral} {t : List Char} (h : n.Spells t)
    {x : Float} : n.toFloat? = some x ↔ AsciiDigits t ∧ n.Denotes x := by
  rw [toFloat?_eq_some_iff, h.asciiDigits_iff]
  refine and_congr_right fun _ ↦ ⟨fun hx ↦ ⟨_, nearestDouble_iff.mpr rfl, hx⟩, ?_⟩
  rintro ⟨y, hy, rfl⟩
  rw [nearestDouble_iff.mp hy]

/-- Every numeral has a double. -/
theorem IsNumeral.exists_isDoubleOf {t : List Char} (h : IsNumeral t) : ∃ x, IsDoubleOf t x := by
  obtain ⟨n, hspells⟩ := h
  exact ⟨_, n, hspells, _, nearestDouble_iff.mpr rfl, rfl⟩

theorem LeadingNumeral.unique {cs t t' : List Char} (h : LeadingNumeral cs t)
    (h' : LeadingNumeral cs t') : t = t' := by
  have hle := h.longest t' h'.isNumeral h'.starts
  have hge := h'.longest t h.isNumeral h.starts
  exact (List.prefix_of_prefix_length_le h.starts h'.starts hge).eq_of_length_le hle

/-! ### The two patterns -/

/-- What is scanned is the longest numeral. -/
theorem exists_leadingNumeral {cs rest : List Char} {n : Numeral}
    (h : Numeral.scan cs = some (n, rest)) :
    ∃ t, cs = t ++ rest ∧ n.Spells t ∧ LeadingNumeral cs t := by
  obtain ⟨t, hcs, hspells⟩ := Numeral.exists_spells h
  exact ⟨t, hcs, hspells, Numeral.leadingNumeral_of_scan h hcs hspells⟩

/-- Behind its blanks the text begins with the numeral, and with no longer one. -/
def BeginsWith (cs t : List Char) : Prop := ∃ rest, TrimsStart cs rest ∧ LeadingNumeral rest t

/-- The text is the numeral between blanks. -/
def ConsistsOf (cs t : List Char) : Prop := Trims cs t ∧ IsNumeral t

theorem BeginsWith.isNumeral {cs t : List Char} (h : BeginsWith cs t) : IsNumeral t := by
  obtain ⟨rest, -, hleading⟩ := h
  exact hleading.isNumeral

theorem beginsWith_iff (cs t : List Char) :
    BeginsWith cs t ↔ LeadingNumeral (trimStart cs) t := by
  simp only [BeginsWith, ← trimStart_eq_iff, exists_eq_left']

theorem consistsOf_iff (cs t : List Char) : ConsistsOf cs t ↔ trim cs = t ∧ IsNumeral t := by
  rw [ConsistsOf, trim_eq_iff]

/-- The first pattern takes the longest numeral. -/
theorem leadingNumeral?_eq_some_iff (cs : List Char) (n : Numeral) :
    leadingNumeral? cs = some n ↔ ∃ t, BeginsWith cs t ∧ n.Spells t := by
  simp only [beginsWith_iff]
  unfold leadingNumeral?
  cases hscan : Numeral.scan (trimStart cs) with
  | none =>
    refine iff_of_false (fun h ↦ nomatch h) ?_
    rintro ⟨t, hleading, -⟩
    exact (Numeral.scan_eq_none_iff _).mp hscan t hleading.isNumeral hleading.starts
  | some p =>
    obtain ⟨m, rest⟩ := p
    obtain ⟨t, -, hspells, hleading⟩ := exists_leadingNumeral hscan
    rw [Option.map_some, Option.some.injEq]
    constructor
    · rintro rfl
      exact ⟨t, hleading, hspells⟩
    · rintro ⟨t', hleading', hspells'⟩
      obtain rfl := hleading.unique hleading'
      exact hspells.unique hspells'

/-- Blanks behind a numeral are left behind by the scanner. -/
theorem scan_append_blanks {t bs : List Char} (ht : IsNumeral t)
    (hbs : ∀ c ∈ bs, isBlank c = true) :
    ∃ n : Numeral, Numeral.scan (t ++ bs) = some (n, bs) ∧ n.Spells t := by
  have hsome : Numeral.scan (t ++ bs) ≠ none := fun hnone ↦
    (Numeral.scan_eq_none_iff _).mp hnone t ht (List.prefix_append t bs)
  obtain ⟨⟨n, rest⟩, hscan⟩ := Option.ne_none_iff_exists'.mp hsome
  obtain ⟨t', hsplit, hspells, hleading⟩ := exists_leadingNumeral hscan
  -- The longest numeral reaches past `t` only over blanks, and it has none.
  have hle := hleading.longest t ht (List.prefix_append t bs)
  obtain ⟨bs', rfl⟩ :=
    List.prefix_of_prefix_length_le (List.prefix_append t bs) hleading.starts hle
  rw [List.append_assoc, List.append_cancel_left_eq] at hsplit
  have hnil : bs' = [] := by
    refine List.eq_nil_iff_forall_not_mem.mpr fun c hc ↦ ?_
    have hblank := hbs c (hsplit ▸ List.mem_append_left rest hc)
    have hunblank := (IsNumeral.unblank ⟨n, hspells⟩) c (List.mem_append_right t hc)
    exact Bool.false_ne_true (hunblank.symm.trans hblank)
  subst hnil
  rw [List.append_nil] at hspells
  rw [hsplit] at hscan ⊢
  exact ⟨n, hscan, hspells⟩

/-- The second pattern takes a numeral between blanks. -/
theorem wholeNumeral?_eq_some_iff (cs : List Char) (n : Numeral) :
    wholeNumeral? cs = some n ↔ ∃ t, ConsistsOf cs t ∧ n.Spells t := by
  simp only [consistsOf_iff]
  unfold wholeNumeral? trim
  generalize trimStart cs = cs
  constructor
  · intro h
    obtain ⟨⟨m, rest⟩, hscan, hread⟩ := Option.bind_eq_some_iff.mp h
    obtain ⟨t, rfl, hspells, -⟩ := exists_leadingNumeral hscan
    obtain ⟨hblank, hm⟩ := Option.ite_none_right_eq_some.mp hread
    cases hm
    have hunblank := IsNumeral.unblank ⟨n, hspells⟩
    refine ⟨t, ⟨?_, n, hspells⟩, hspells⟩
    rw [trimEnd_append t (List.all_eq_true.mp hblank),
      trimEnd_eq_self fun c hc ↦ hunblank c (List.mem_of_getLast? hc)]
  · rintro ⟨t, ⟨rfl, hnumeral⟩, hspells⟩
    obtain ⟨bs, hcs, hbs⟩ := exists_trimEnd_append cs
    obtain ⟨m, hscan, hspells'⟩ := scan_append_blanks hnumeral hbs
    rw [← hcs] at hscan
    rw [hscan, Option.bind_some]
    dsimp only
    rw [if_pos (List.all_eq_true.mpr hbs), hspells'.unique hspells]

/-! ### The numbers of the two patterns -/

section

variable {numeral? : Option Numeral} {p : List Char → Prop}
  (h : ∀ n : Numeral, numeral? = some n ↔ ∃ t, p t ∧ n.Spells t)

include h

/-- What is read of a numeral is its double, if all its digits are ASCII digits. -/
theorem bind_toFloat?_eq_some_iff (x : Float) :
    numeral?.bind Numeral.toFloat? = some x ↔ ∃ t, p t ∧ AsciiDigits t ∧ IsDoubleOf t x := by
  rw [Option.bind_eq_some_iff]
  constructor
  · rintro ⟨n, hn, hx⟩
    obtain ⟨t, ht, hspells⟩ := (h n).mp hn
    obtain ⟨hascii, hdenotes⟩ := (Numeral.toFloat?_eq_some_iff_denotes hspells).mp hx
    exact ⟨t, ht, hascii, n, hspells, hdenotes⟩
  · rintro ⟨t, ht, hascii, n, hspells, hdenotes⟩
    exact ⟨n, (h n).mpr ⟨t, ht, hspells⟩,
      (Numeral.toFloat?_eq_some_iff_denotes hspells).mpr ⟨hascii, hdenotes⟩⟩

theorem isSome_bind_toFloat?_iff (hp : ∀ t, p t → IsNumeral t) :
    (numeral?.bind Numeral.toFloat?).isSome = true ↔ ∃ t, p t ∧ AsciiDigits t := by
  simp only [Option.isSome_iff_exists, bind_toFloat?_eq_some_iff h]
  constructor
  · rintro ⟨x, t, ht, hascii, -⟩
    exact ⟨t, ht, hascii⟩
  · rintro ⟨t, ht, hascii⟩
    obtain ⟨x, hx⟩ := (hp t ht).exists_isDoubleOf
    exact ⟨x, t, ht, hascii, hx⟩

end

/-- Text begins with a number when the longest numeral behind its blanks has ASCII digits only, and
the number is the double of that numeral. Text is a number when it is a numeral with ASCII digits
between blanks, and then it is the number that the text begins with. -/
theorem numbers_of_text (s : String) :
    (∀ x, leadingNumber? s = some x ↔
      ∃ t, BeginsWith s.toList t ∧ AsciiDigits t ∧ IsDoubleOf t x) ∧
    (leadingNumber? s = none ↔ ¬ ∃ t, BeginsWith s.toList t ∧ AsciiDigits t) ∧
    ((wholeNumber? s).isSome = true ↔ ∃ t, ConsistsOf s.toList t ∧ AsciiDigits t) ∧
    (wholeNumber? s = none ∨ wholeNumber? s = leadingNumber? s) := by
  refine ⟨bind_toFloat?_eq_some_iff (leadingNumeral?_eq_some_iff s.toList), ?_,
    isSome_bind_toFloat?_iff (wholeNumeral?_eq_some_iff s.toList) fun _ ht ↦ ht.2, ?_⟩
  · rw [← isSome_bind_toFloat?_iff (leadingNumeral?_eq_some_iff s.toList) fun _ ht ↦ ht.isNumeral,
      ← leadingNumber?, Option.not_isSome_iff_eq_none]
  · cases hwhole : wholeNumber? s with
    | none => exact Or.inl rfl
    | some x => exact Or.inr (leadingNumber?_of_wholeNumber? s x hwhole).symm

end Worksheet.Decimal
