import Worksheet.Arithmetic
import Worksheet.Cell

/-!
Accumulators of pivot subtotals. One pass over the values keeps counts, extremes, sum, product,
mean and spread (the sum of the squared distances to the mean); accumulators of two parts merge
into one. The first error recorded stays.

The order of the operations is part of the rule: on doubles it decides the last bits.
-/

set_option autoImplicit false
set_option relaxedAutoImplicit false

namespace Worksheet.Pivot

structure Accumulator (α ε κ : Type) where
  /-- Rows that were counted, with or without a number. -/
  count : κ
  numbers : κ
  min : ε
  max : ε
  sum : α
  product : α
  mean : α
  spread : α
  error : Option ErrorKind
  /-- A calculated item has a value even when no row reaches it. -/
  calculated : Bool
  deriving BEq

/-- An accumulator of doubles whose counts are words. -/
abbrev MachineAccumulator := Accumulator Float Float UInt64

namespace Accumulator

section

variable {α ε κ : Type} [Arithmetic α] [Extremes ε α] [Counter κ]

open Arithmetic Extremes Counter

def empty : Accumulator α ε κ where
  count := ofNat 0
  numbers := ofNat 0
  min := top
  max := bottom
  sum := ofCount 0
  product := ofCount 1
  mean := ofCount 0
  spread := ofCount 0
  error := none
  calculated := false

def ofCalculated : Accumulator α ε κ := { empty with calculated := true }

/-- An empty accumulator that is calculated as before. -/
def reset (s : Accumulator α ε κ) : Accumulator α ε κ := { empty with calculated := s.calculated }

def markCalculated (s : Accumulator α ε κ) : Accumulator α ε κ := { s with calculated := true }

/-- The mean moves by its share of the distance; the spread grows by the distances to the mean
before and after the move. -/
def add (s : Accumulator α ε κ) (x : α) : Accumulator α ε κ :=
  let numbers := s.numbers + ofNat 1
  let delta := x - s.mean
  let mean := s.mean + delta / ofCount (toNat numbers)
  { s with
    count := s.count + ofNat 1
    numbers
    min := lower s.min (ofNumber x)
    max := upper s.max (ofNumber x)
    sum := s.sum + x
    product := s.product * x
    mean
    spread := s.spread + delta * (x - mean) }

def addCount (s : Accumulator α ε κ) : Accumulator α ε κ := { s with count := s.count + ofNat 1 }

def addError (s : Accumulator α ε κ) (kind : ErrorKind) : Accumulator α ε κ :=
  { s with error := s.error.or (some kind) }

def extend (s : Accumulator α ε κ) (xs : List α) : Accumulator α ε κ := xs.foldl add s

def ofList (xs : List α) : Accumulator α ε κ := empty.extend xs

/-- The accumulator of two parts. Means and spreads move only if either part has numbers. -/
def merge (s t : Accumulator α ε κ) : Accumulator α ε κ :=
  let delta := t.mean - s.mean
  let n : α := ofCount (toNat (s.numbers + t.numbers))
  let a : α := ofCount (toNat s.numbers)
  let b : α := ofCount (toNat t.numbers)
  let move := 0 < toNat (s.numbers + t.numbers)
  { count := s.count + t.count
    numbers := s.numbers + t.numbers
    min := lower s.min t.min
    max := upper s.max t.max
    sum := s.sum + t.sum
    product := s.product * t.product
    mean := if move then s.mean + delta * b / n else s.mean
    spread := if move then s.spread + (t.spread + delta * delta * a * b / n) else s.spread
    error := s.error.or t.error
    calculated := s.calculated || t.calculated }

/-- No row was counted; a recorded error counts no row. -/
def isEmpty (s : Accumulator α ε κ) : Bool := toNat s.count == 0 && toNat s.numbers == 0

/-- Zero, not one, when there is no number. -/
def productOrZero (s : Accumulator α ε κ) : α :=
  if 0 < toNat s.numbers then s.product else ofCount 0

/-- Zero below two numbers. -/
def sampleVariance (s : Accumulator α ε κ) : α :=
  if 1 < toNat s.numbers then s.spread / ofCount (toNat s.numbers - 1) else ofCount 0

/-- Zero when there is no number. -/
def populationVariance (s : Accumulator α ε κ) : α :=
  if 0 < toNat s.numbers then s.spread / ofCount (toNat s.numbers) else ofCount 0

@[simp] theorem numbers_merge (s t : Accumulator α ε κ) :
    (s.merge t).numbers = s.numbers + t.numbers := rfl

@[simp] theorem count_merge (s t : Accumulator α ε κ) : (s.merge t).count = s.count + t.count := rfl

@[simp] theorem error_merge (s t : Accumulator α ε κ) :
    (s.merge t).error = s.error.or t.error := rfl

theorem mean_merge_of_no_number (s t : Accumulator α ε κ)
    (h : toNat (s.numbers + t.numbers) = 0) : (s.merge t).mean = s.mean :=
  if_neg (Nat.not_lt.mpr (Nat.le_of_eq h))

theorem spread_merge_of_no_number (s t : Accumulator α ε κ)
    (h : toNat (s.numbers + t.numbers) = 0) : (s.merge t).spread = s.spread :=
  if_neg (Nat.not_lt.mpr (Nat.le_of_eq h))

end

/-- Numbers are added, errors recorded, blanks passed over, all else counted. -/
def addCell (s : MachineAccumulator) (c : Cell) : MachineAccumulator :=
  match c with
  | .number x => s.add x
  | .int i => s.add (Decimal.floatOfInt i)
  | .error e => s.addError e.kind
  | .empty => s
  | _ => s.addCount

def stdDev (s : MachineAccumulator) : Float := s.sampleVariance.sqrt

def stdDevP (s : MachineAccumulator) : Float := s.populationVariance.sqrt

end Accumulator

end Worksheet.Pivot
