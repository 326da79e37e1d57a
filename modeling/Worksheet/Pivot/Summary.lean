import Worksheet.Pivot.Accumulator
import Worksheet.Pivot.Kind

/-!
The cell that a finished accumulator shows. `materialize` leaves the cell out when nothing was
counted and the item is not calculated, or when its overrides disagree. A recorded error is shown
by every kind but the presence counts, and a kind that divides reports a division by zero below the
numbers it needs.
-/

set_option autoImplicit false
set_option relaxedAutoImplicit false

namespace Worksheet.Pivot

/-- A finished accumulator. -/
structure Summary where
  stats : MachineAccumulator

def Accumulator.finalize (s : MachineAccumulator) : Summary := ⟨s⟩

namespace Summary

/-- Back to an empty accumulator that is calculated as before. -/
def reopen (s : Summary) : MachineAccumulator := s.stats.reset

/-- An extreme of no numbers is shown as it stands only by a calculated item. -/
def extremeOrZero (s : Summary) (x : Float) : Float :=
  if s.stats.calculated || 0 < s.stats.numbers.toNat then x else 0.0

def number (s : Summary) : Kind → Float
  | .count => Float.ofNat s.stats.numbers.toNat
  | .countA => Float.ofNat s.stats.count.toNat
  | .max => s.extremeOrZero s.stats.max
  | .min => s.extremeOrZero s.stats.min
  | .product => s.stats.productOrZero
  | .average => s.stats.mean
  | .stdDev => s.stats.stdDev
  | .stdDevP => s.stats.stdDevP
  | .var => s.stats.sampleVariance
  | .varP => s.stats.populationVariance
  | _ => s.stats.sum

/-- The cell of a kind that is not blank. -/
def cell (s : Summary) (kind : Kind) : Cell :=
  match s.stats.error, kind.isPresenceCount with
  | some e, false => .error ⟨e, none⟩
  | _, _ =>
    if s.stats.numbers.toNat < kind.neededNumbers then .error ⟨.division, none⟩
    else .number (s.number kind)

def materialize (s : Summary) (base field row column : Kind) : Option Cell :=
  if s.stats.isEmpty && !s.stats.calculated then none
  else
    match Kind.resolve base field row column with
    | .blank => none
    | kind => some (s.cell kind)

theorem materialize_of_isEmpty (s : Summary) (base field row column : Kind)
    (h : s.stats.isEmpty = true) (hc : s.stats.calculated = false) :
    s.materialize base field row column = none := by
  simp [materialize, h, hc]

end Summary

end Worksheet.Pivot
