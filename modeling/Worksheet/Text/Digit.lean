/-!
Decimal digits of every script (general category Nd). They come in runs of ten consecutive code
points, so a run is named by its zero.
-/

set_option autoImplicit false
set_option relaxedAutoImplicit false

namespace Worksheet.Text

/-- The zeros of the runs of decimal digits, in order of code point. -/
def digitZeros : List Nat := [
  0x30,
  0x660, 0x6F0, 0x7C0, 0x966, 0x9E6, 0xA66, 0xAE6, 0xB66, 0xBE6, 0xC66, 0xCE6, 0xD66, 0xDE6,
  0xE50, 0xED0, 0xF20, 0x1040, 0x1090, 0x17E0, 0x1810, 0x1946, 0x19D0, 0x1A80, 0x1A90, 0x1B50,
  0x1BB0, 0x1C40, 0x1C50, 0xA620, 0xA8D0, 0xA900, 0xA9D0, 0xA9F0, 0xAA50, 0xABF0, 0xFF10,
  0x104A0, 0x10D30, 0x10D40, 0x11066, 0x110F0, 0x11136, 0x111D0, 0x112F0, 0x11450, 0x114D0,
  0x11650, 0x116C0, 0x116D0, 0x116DA, 0x11730, 0x118E0, 0x11950, 0x11BF0, 0x11C50, 0x11D50,
  0x11DA0, 0x11F50, 0x16130, 0x16A60, 0x16AC0, 0x16B50, 0x16D70, 0x1CCF0, 0x1D7CE, 0x1D7D8,
  0x1D7E2, 0x1D7EC, 0x1D7F6, 0x1E140, 0x1E2F0, 0x1E4F0, 0x1E5F1, 0x1E950, 0x1FBF0]

/-- A decimal digit of any script. -/
def isDigit (c : Char) : Bool :=
  digitZeros.any fun start ↦ start ≤ c.toNat && c.toNat < start + 10

/-- The value of an ASCII digit; the digits of other scripts have none here. -/
def digitValue? (c : Char) : Option Nat :=
  if '0' ≤ c ∧ c ≤ '9' then some (c.toNat - '0'.toNat) else none

theorem isDigit_of_ascii (c : Char) (h : '0' ≤ c ∧ c ≤ '9') : isDigit c = true := by
  have low : '0'.toNat ≤ c.toNat := h.1
  have high : c.toNat ≤ '9'.toNat := h.2
  have at0 : '0'.toNat = 48 := rfl
  have at9 : '9'.toNat = 57 := rfl
  simp only [isDigit, digitZeros, List.any_cons, Bool.or_eq_true, Bool.and_eq_true,
    decide_eq_true_eq]
  left
  omega

end Worksheet.Text
