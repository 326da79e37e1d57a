import Worksheet.Error
import Worksheet.Proofs.Text.Spelling

/-!
Error kinds and the texts that are read as one.

A kind is written by one table and read by another, which holds the codes in lower case. Each undoes
the other: an entry that is read belongs to the kind that is written so (`eq_asciiLower_code`), and
every kind that is written has its entry (`lookup_asciiLower_code`). Exactly the spellings of a code
are therefore read as its kind (`parse?_eq_some_iff`).
-/

set_option autoImplicit false
set_option relaxedAutoImplicit false

namespace Worksheet.ErrorKind

open Worksheet.Text

/-! ### The two tables -/

theorem eq_asciiLower_code :
    ∀ entry ∈ lowerCodes, entry.1 = asciiLower entry.2.code := by
  decide +kernel

theorem lookup_asciiLower_code (k : ErrorKind) :
    lowerCodes.lookup (asciiLower k.code) = some k := by
  cases k <;> decide +kernel

theorem lookup_lowerCodes_iff (s : String) (k : ErrorKind) :
    lowerCodes.lookup s = some k ↔ s = asciiLower k.code := by
  constructor
  · intro h
    obtain ⟨before, after, hsplit, -⟩ := List.lookup_eq_some_iff.mp h
    have hmem : (s, k) ∈ lowerCodes := by
      rw [hsplit]
      exact List.mem_append_right before List.mem_cons_self
    exact eq_asciiLower_code (s, k) hmem
  · rintro rfl
    exact lookup_asciiLower_code k

theorem ascii_code (k : ErrorKind) : ∀ c ∈ k.code.toList, c.toNat < 128 := by
  -- Over the list, not over characters: all characters are too many to decide.
  have hall : (k.code.toList.all fun c ↦ decide (c.toNat < 128)) = true := by
    cases k <;> decide +kernel
  exact fun c hc ↦ of_decide_eq_true (List.all_eq_true.mp hall c hc)

/-! ### The texts of a kind -/

theorem parse?_eq_some_iff (s : String) (k : ErrorKind) :
    parse? s = some k ↔ IsSpelling s k.code := by
  rw [parse?, lookup_lowerCodes_iff, isSpelling_iff]

theorem parse?_code (k : ErrorKind) : parse? k.code = some k := by
  cases k <;> decide +kernel

/-- Exactly the spellings of a code are read as its kind. No text spells the codes of two kinds, the
code of the kind that was read is read as that kind again, and beyond ASCII a text that is read has
nothing but blanks. -/
theorem spelled_codes :
    (∀ (s : String) (k : ErrorKind), parse? s = some k ↔ IsSpelling s k.code) ∧
      (∀ (s : String) (k other : ErrorKind),
        IsSpelling s k.code → IsSpelling s other.code → k = other) ∧
      (∀ s : String, ((parse? s).bind fun k ↦ parse? k.code) = parse? s) ∧
      ∀ (s : String) (k : ErrorKind), IsSpelling s k.code →
        ∀ c ∈ s.toList, isBlank c = true ∨ c.toNat < 128 := by
  refine ⟨parse?_eq_some_iff, ?_, ?_, fun s k h ↦ h.blank_or_ascii (ascii_code k)⟩
  · intro s k other hk hother
    rw [← parse?_eq_some_iff] at hk hother
    exact Option.some.inj (hk.symm.trans hother)
  · intro s
    cases h : parse? s with
    | none => rfl
    | some k => rw [Option.bind_some, parse?_code]

/-- A long s is no letter of a code, although its capital is one. -/
example : parse? "\u2003#spilL!\u00a0" = some spill ∧ parse? "#\u017fpill!" = none := by
  decide +kernel

end Worksheet.ErrorKind
