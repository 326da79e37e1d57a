import Worksheet.Decimal.Double

/-!
The shortest decimal that reads back to a double, and of those the nearest. A decimal reads back
when it lies in the interval of reals that round to the double; the interval contains its ends
exactly when the significand is even. Grids of 1, 2, …, 17 significant digits are tried in turn:
on a grid that meets the interval, one of the two grid points around the double meets it.
-/

set_option autoImplicit false
set_option relaxedAutoImplicit false

namespace Worksheet.Decimal

/-- `digits × 10 ^ exponent`. -/
structure Scaled where
  digits : Nat
  exponent : Int
  deriving DecidableEq, Repr

/-- Which of two equally near decimals is written. -/
inductive Tie where
  | up
  | even
  deriving DecidableEq, Repr

def digitCount (n : Nat) : Nat := (Nat.toDigits 10 n).length

/-- The reals that round to a positive double, as integers over one denominator. -/
structure Rounding where
  value : Nat
  low : Nat
  high : Nat
  denominator : Nat
  closed : Bool
  deriving DecidableEq, Repr

namespace Rounding

/-- Half a unit of the last binary place on either side; below a power of two the places are half
as wide, so only a quarter. -/
def ofDyadic (d : Dyadic) : Rounding :=
  let scale := Nat.pow 2 (d.exponent - 2).toNat
  let below :=
    if d.significand = Nat.pow 2 52 ∧ Dyadic.leastExponent < d.exponent then 1 else 2
  { value := 4 * d.significand * scale
    low := (4 * d.significand - below) * scale
    high := (4 * d.significand + 2) * scale
    denominator := Nat.pow 2 (2 - d.exponent).toNat
    closed := d.significand % 2 = 0 }

/-- The decimal `n × 10 ^ exponent` rounds to the double. -/
def covers (r : Rounding) (exponent : Int) (n : Nat) : Bool :=
  let factor := Nat.pow 10 (-exponent).toNat
  let point := n * (r.denominator * Nat.pow 10 exponent.toNat)
  if r.closed then r.low * factor ≤ point && point ≤ r.high * factor
  else r.low * factor < point && point < r.high * factor

/-- The grid point nearest to the double among those that read back. -/
def nearest? (r : Rounding) (tie : Tie) (exponent : Int) : Option Nat :=
  let value := r.value * Nat.pow 10 (-exponent).toNat
  let unit := r.denominator * Nat.pow 10 exponent.toNat
  let below := value / unit
  match r.covers exponent below, r.covers exponent (below + 1) with
  | false, false => none
  | true, false => some below
  | false, true => some (below + 1)
  | true, true =>
    match compare (2 * (value % unit)) unit with
    | .lt => some below
    | .gt => some (below + 1)
    | .eq =>
      match tie with
      | .up => some (below + 1)
      | .even => some (below + below % 2)

/-- The least `k` with `value < 10 ^ k`. -/
def pointPosition (r : Rounding) : Int :=
  if r.denominator ≤ r.value then digitCount (r.value / r.denominator)
  else 1 - digitCount ((r.denominator - 1) / r.value)

end Rounding

/-- The only trailing zero comes from a single digit rounded up to ten. -/
def Scaled.carry (s : Scaled) : Scaled :=
  if s.digits = 10 then ⟨1, s.exponent + 1⟩ else s

/-- The shortest decimal of a positive double. -/
def shortest (tie : Tie) (d : Dyadic) : Scaled :=
  let r := Rounding.ofDyadic d
  let position := r.pointPosition
  let found := (List.range 17).findSome? fun (n : Nat) ↦
    let exponent := position - (n + 1 : Nat)
    (r.nearest? tie exponent).map fun digits ↦ Scaled.carry ⟨digits, exponent⟩
  found.getD ⟨0, 0⟩

theorem Rounding.nearest?_covers (r : Rounding) (tie : Tie) (exponent : Int) (n : Nat)
    (h : r.nearest? tie exponent = some n) : r.covers exponent n = true := by
  unfold Rounding.nearest? at h
  extract_lets value unit below at h
  split at h
  · cases h
  · next hb _ => exact Option.some.inj h ▸ hb
  · next _ ha => exact Option.some.inj h ▸ ha
  · next hb ha =>
    split at h
    · exact Option.some.inj h ▸ hb
    · exact Option.some.inj h ▸ ha
    · cases tie with
      | up => exact Option.some.inj h ▸ ha
      | even =>
        rw [← Option.some.inj h]
        rcases Nat.mod_two_eq_zero_or_one below with e | e
        · simpa [e] using hb
        · simpa [e] using ha

end Worksheet.Decimal
