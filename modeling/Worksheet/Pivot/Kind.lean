/-!
Subtotal kinds of a pivot. The first four say where a cell stands and are no aggregations; only the
others override the kind of a data field.

`resolve` gives the kind of a cell: row and column overrides that disagree leave it blank,
otherwise the row override goes before the override of the field, and that before the base kind.
-/

set_option autoImplicit false
set_option relaxedAutoImplicit false

namespace Worksheet.Pivot

inductive Kind where
  | standard
  | data
  | blank
  | grand
  | sum
  | countA
  | average
  | max
  | min
  | product
  | count
  | stdDev
  | stdDevP
  | var
  | varP
  deriving DecidableEq, Repr

namespace Kind

/-- All kinds, in their order. -/
def all : List Kind :=
  [standard, data, blank, grand, sum, countA, average, max, min, product, count, stdDev, stdDevP,
    var, varP]

def label : Kind → String
  | standard => "Default"
  | data => "Data"
  | blank => "Blank"
  | grand => "Grand"
  | sum => "Sum"
  | countA => "CountA"
  | average => "Average"
  | max => "Max"
  | min => "Min"
  | product => "Product"
  | count => "Count"
  | stdDev => "StdDev"
  | stdDevP => "StdDevP"
  | var => "Var"
  | varP => "VarP"

def ofLabel? (s : String) : Option Kind := all.find? fun k ↦ s == k.label

def isOverride : Kind → Bool
  | standard | data | blank | grand => false
  | _ => true

/-- Kinds that report presence, and so pass over a recorded error. -/
def isPresenceCount : Kind → Bool
  | count | countA => true
  | _ => false

def needsDivision : Kind → Bool
  | average | stdDev | stdDevP | var | varP => true
  | _ => false

/-- How many numbers a kind needs. -/
def neededNumbers : Kind → Nat
  | stdDev | var => 2
  | k => if k.needsDivision then 1 else 0

def resolve (base field row column : Kind) : Kind :=
  if row.isOverride && column.isOverride && row != column then blank
  else if row.isOverride then row
  else if field.isOverride then field
  else base

theorem mem_all (k : Kind) : k ∈ all := by cases k <;> decide

theorem all_nodup : all.Nodup := by decide

theorem ofLabel?_label (k : Kind) : ofLabel? k.label = some k := by cases k <;> decide +kernel

theorem resolve_of_not_override (base field row column : Kind) (hr : row.isOverride = false)
    (hf : field.isOverride = false) : resolve base field row column = base := by
  simp [resolve, hr, hf]

end Kind

end Worksheet.Pivot
