/-!
The arithmetic that sums, means and spreads are computed in. The same definitions run on doubles,
where the order of the operations decides the last bits, and on exact numbers, where it does not.
The least and greatest of no numbers lie outside the numbers, so extremes have a type of their own.
So have the counts of rows: they are machine words where the program runs.
-/

set_option autoImplicit false
set_option relaxedAutoImplicit false

namespace Worksheet

class Arithmetic (α : Type) extends Add α, Sub α, Mul α, Div α, Neg α where
  ofCount : Nat → α

/-- Least and greatest values of numbers in `α`. -/
class Extremes (ε : Type) (α : outParam Type) where
  /-- Above every number: the least of no numbers. -/
  top : ε
  /-- Below every number: the greatest of no numbers. -/
  bottom : ε
  ofNumber : α → ε
  lower : ε → ε → ε
  upper : ε → ε → ε

/-- Counts of rows. -/
class Counter (κ : Type) extends Add κ where
  ofNat : Nat → κ
  toNat : κ → Nat
  ofNat_add (m n : Nat) : ofNat (m + n) = ofNat m + ofNat n

/-- The least of two doubles; NaN gives way, and of equal ones the first stays. -/
def lowerFloat (x y : Float) : Float :=
  if x.isNaN then y else if y < x then y else x

/-- The greatest of two doubles; NaN gives way, and of equal ones the first stays. -/
def upperFloat (x y : Float) : Float :=
  if x.isNaN then y else if x < y then y else x

instance : Arithmetic Float where
  ofCount := Float.ofNat

instance : Extremes Float Float where
  top := 1.0 / 0.0
  bottom := -1.0 / 0.0
  ofNumber x := x
  lower := lowerFloat
  upper := upperFloat

/-- Words wrap around. -/
instance : Counter UInt64 where
  ofNat := UInt64.ofNat
  toNat := UInt64.toNat
  ofNat_add := UInt64.ofNat_add

section

variable {α : Type} [Arithmetic α]

open Arithmetic

/-- Left to right, from a negative zero, which adds to nothing without a trace. -/
def sum (xs : List α) : α := xs.foldl (· + ·) (-ofCount 0)

def mean (xs : List α) : α := sum xs / ofCount xs.length

/-- The sum of the squared distances to the mean. -/
def squaredDeviations (xs : List α) : α :=
  let m := mean xs
  sum (xs.map fun x ↦ (x - m) * (x - m))

/-- Squared deviations over one less than their number. -/
def sampleVariance (xs : List α) : α :=
  squaredDeviations xs / (ofCount xs.length - ofCount 1)

def populationVariance (xs : List α) : α := squaredDeviations xs / ofCount xs.length

end

end Worksheet
