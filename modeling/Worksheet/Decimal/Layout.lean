import Worksheet.Decimal.Integer
import Worksheet.Decimal.Shortest

/-!
How a double is written. All layouts write the shortest decimal that reads back; they differ in
where the exponent notation begins, in whether an exponent shows a plus, in whether a whole number
shows `.0`, and in the choice between two equally near decimals. The point position of
`0.d₁d₂… × 10 ^ p` is `p`.
-/

set_option autoImplicit false
set_option relaxedAutoImplicit false

namespace Worksheet.Decimal

structure Layout where
  /-- The point positions that are written without an exponent. -/
  positional : Int → Bool
  /-- An exponent that is not negative is written after a plus. -/
  exponentPlus : Bool
  /-- A whole number written without an exponent ends in `.0`. -/
  pointZero : Bool
  tie : Tie

namespace Layout

/-- A number that a reader sees in a cell: never an exponent, no `.0`. -/
def plain : Layout where
  positional _ := true
  exponentPlus := false
  pointZero := false
  tie := .up

/-- A number in a listing of a block: positional from `0.0001` up to below `10 ^ 16`. -/
def listing : Layout where
  positional position := -3 ≤ position && position ≤ 16
  exponentPlus := false
  pointZero := true
  tie := .up

/-- A number in stored JSON: positional from `0.00001` up to below `10 ^ 16`. -/
def stored : Layout where
  positional position := -4 ≤ position && position ≤ 16
  exponentPlus := true
  pointZero := true
  tie := .even

end Layout

/-- Digits with the point at a position, zeros filled in on either side. -/
def place (pointZero : Bool) (digits : List Char) (position : Int) : List Char :=
  if position ≤ 0 then '0' :: '.' :: (List.replicate (-position).toNat '0' ++ digits)
  else if (digits.length : Int) ≤ position then
    digits ++ List.replicate (position.toNat - digits.length) '0' ++
      (if pointZero then ['.', '0'] else [])
  else digits.take position.toNat ++ '.' :: digits.drop position.toNat

/-- One digit before the point, and the power of ten of that digit after `e`. -/
def scientific (exponentPlus : Bool) (digits : List Char) (position : Int) : List Char :=
  let exponent := position - 1
  digits.take 1 ++ (if digits.length ≤ 1 then [] else '.' :: digits.drop 1) ++
    'e' :: ((if exponentPlus && 0 ≤ exponent then ['+'] else []) ++ integerText exponent)

namespace Layout

def magnitude (layout : Layout) (d : Dyadic) : List Char :=
  if d.significand = 0 then place layout.pointZero ['0'] 1
  else
    let s := shortest layout.tie d
    let digits := Nat.toDigits 10 s.digits
    let position := digits.length + s.exponent
    if layout.positional position then place layout.pointZero digits position
    else scientific layout.exponentPlus digits position

/-- The text of any double; zeros keep their sign. -/
def write (layout : Layout) (x : Float) : String :=
  if x.isNaN then "NaN"
  else
    let d := Dyadic.ofFloat x
    let sign := if d.negative then ['-'] else []
    String.ofList (sign ++ if x.isFinite then layout.magnitude d else ['i', 'n', 'f'])

end Layout

end Worksheet.Decimal
