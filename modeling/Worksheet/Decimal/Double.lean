/-!
A finite double read as an exact dyadic number: `significand × 2 ^ exponent` with a sign. The
significand is below `2 ^ 53`, and at least `2 ^ 52` unless the exponent is the least one. The other
way round, an integer becomes the double nearest to it.
-/

set_option autoImplicit false
set_option relaxedAutoImplicit false

namespace Worksheet.Decimal

structure Dyadic where
  negative : Bool
  significand : Nat
  exponent : Int
  deriving DecidableEq, Repr

namespace Dyadic

/-- The exponent of the subnormal doubles and of the least normal ones. -/
def leastExponent : Int := -1074

def ofFloat (x : Float) : Dyadic :=
  let bits := x.toBits.toNat
  let field := bits / Nat.pow 2 52 % Nat.pow 2 11
  let fraction := bits % Nat.pow 2 52
  { negative := Nat.pow 2 63 ≤ bits
    significand := if field = 0 then fraction else Nat.pow 2 52 + fraction
    exponent := leastExponent + (field - 1 : Nat) }

/-- The value as a natural number, when it is one. -/
def toNat? (d : Dyadic) : Option Nat :=
  if d.negative ∧ d.significand ≠ 0 then none
  else if 0 ≤ d.exponent then some (d.significand * Nat.pow 2 d.exponent.toNat)
  else
    let scale := Nat.pow 2 (-d.exponent).toNat
    if d.significand % scale = 0 then some (d.significand / scale) else none

theorem significand_ofFloat_lt (x : Float) : (ofFloat x).significand < Nat.pow 2 53 := by
  simp only [ofFloat, Nat.pow_eq]
  split <;> omega

end Dyadic

/-- The natural number that a double stands for; fractions, negative numbers, infinities and
NaN stand for none. -/
def toNat? (x : Float) : Option Nat :=
  if x.isFinite then (Dyadic.ofFloat x).toNat? else none

/-- The double nearest to an integer; of two that are equally near, the even one. -/
def floatOfInt (i : Int64) : Float := .ofModel (.ofInt64 i)

end Worksheet.Decimal
