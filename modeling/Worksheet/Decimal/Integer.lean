/-!
Integers in decimal: the digits without leading zeros, after a minus where negative.
-/

set_option autoImplicit false
set_option relaxedAutoImplicit false

namespace Worksheet.Decimal

def natText (n : Nat) : List Char := Nat.toDigits 10 n

def integerText (i : Int) : List Char :=
  if i < 0 then '-' :: natText i.natAbs else natText i.natAbs

end Worksheet.Decimal
