import Worksheet.Proofs.Decimal.ScannedNumbers
import Worksheet.Proofs.Json.StoredDoubles

/-!
Numbers read back from the text of a cell.

The text of a double in a cell has no exponent, and a whole number has no point, however many zeros
that takes (`legible_plain`). It is a numeral, and a text that is a numeral is read as the double of
the numeral (`wholeNumber?_text`), so that the text of a finite double is read as that double.
-/

set_option autoImplicit false
set_option relaxedAutoImplicit false

namespace Worksheet.Decimal

open Worksheet.Text

/-! ### The text of a double -/

/-- Behind its digits a whole number has only zeros. -/
theorem PositiveDigits.stores_plain_whole {ds : List Char} (h : PositiveDigits ds) {p : Int}
    (hp : (ds.length : Int) ≤ p) (negative : Bool) :
    Numeral.Stores ⟨negative, ds ++ List.replicate (p.toNat - ds.length) '0', [], false, []⟩
      negative (place false ds p) (Nat.ofDigitChars 10 ds 0 * 10 ^ (p - ds.length)) := by
  have hpos := List.length_pos_iff.mpr h.ne_nil
  have htext : place false ds p = ds ++ List.replicate (p.toNat - ds.length) '0' := by
    unfold place
    rw [if_neg (by omega), if_pos hp, if_neg Bool.false_ne_true, List.append_nil]
  have hvalue : (Nat.ofDigitChars 10 ds 0 : ℚ) * 10 ^ (p - ds.length) =
      Nat.ofDigitChars 10 (ds ++ List.replicate (p.toNat - ds.length) '0') 0 := by
    have hexponent : p - ds.length = ((p.toNat - ds.length : Nat) : Int) := by omega
    rw [Nat.ofDigitChars_append, Nat.ofDigitChars_replicate_zero, hexponent, zpow_natCast,
      mul_comm]
    push_cast
    rfl
  rw [htext, hvalue]
  refine stores_whole (fun c hc ↦ ?_) ?_ negative
  · exact (List.mem_append.mp hc).elim (h.digit c) isDigit_of_mem_replicate
  · obtain ⟨d, rest, rfl, hd⟩ := h.leading
    exact Or.inr ⟨d, _, rfl, hd⟩

/-- Only whole numbers are written otherwise where no point is asked for. -/
theorem place_eq_of_lt {ds : List Char} {p : Int} (hp : p < ds.length) :
    place false ds p = place true ds p := by
  unfold place
  rw [if_neg (not_le.mpr hp), if_neg (not_le.mpr hp)]

theorem legible_plain : Layout.plain.Legible := by
  intro ds h p negative
  change ∃ n : Numeral, n.Stores negative (place false ds p) _
  rcases Int.lt_or_le p ds.length with hlt | hge
  · obtain ⟨whole, fraction, hplaced⟩ := h.exists_placed p
    rw [place_eq_of_lt hlt]
    exact ⟨_, hplaced.stores negative⟩
  · exact ⟨_, h.stores_plain_whole hge negative⟩

/-! ### Reading the text -/

/-- A text that is a numeral is read as the double of the numeral. -/
theorem wholeNumber?_text {n : Numeral} (h : n.Storable) :
    wholeNumber? (String.ofList n.text) = n.toFloat? := by
  have hwhole : wholeNumeral? n.text = some n := by
    have hunblank : Unblank n.text := IsNumeral.unblank ⟨n, h.spells⟩
    have hstart : trimStart n.text = n.text :=
      trimStart_eq_self _ fun c hc ↦ hunblank c (List.mem_of_mem_head? hc)
    rw [wholeNumeral?, hstart, Numeral.scan_text h, Option.bind_some]
    exact if_pos rfl
  rw [wholeNumber?, String.toList_ofList, hwhole, Option.bind_some]

end Worksheet.Decimal
