/-!
Sets of characters given by inclusive ranges of code points.
-/

set_option autoImplicit false
set_option relaxedAutoImplicit false

namespace Worksheet.Text

abbrev Ranges := List (Nat × Nat)

namespace Ranges

def has (ranges : Ranges) (c : Char) : Bool :=
  ranges.any fun range ↦ range.1 ≤ c.toNat && c.toNat ≤ range.2

end Ranges

end Worksheet.Text
