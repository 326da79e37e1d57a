import Worksheet.Decimal.Double
import Worksheet.Decimal.Integer
import Worksheet.Decimal.Numeral
import Worksheet.Error

/-!
Cell values. A cell holds an integer, a double, a text, a truth value, a block of cells, an error,
or nothing. `Cell.single` reads a block that amounts to one cell, `Cell.number?` the number of a
numeric cell and `Cell.entry?` the number that an aggregate takes from a cell.
-/

set_option autoImplicit false
set_option relaxedAutoImplicit false

namespace Worksheet

inductive Cell where
  | int (i : Int64)
  | number (x : Float)
  | text (s : String)
  | boolean (b : Bool)
  | array (rows : List (List Cell))
  | empty
  | error (e : CellError)
  deriving Inhabited

/-- A block where one cell was wanted. -/
structure NotSingle where
  rows : Nat
  width : Nat
  deriving DecidableEq, Repr

def NotSingle.message (n : NotSingle) : String :=
  String.ofList ("expected a single cell, got a ".toList ++ Decimal.natText n.rows ++ ['x'] ++
    Decimal.natText n.width ++ " block".toList)

/-- The length of the longest row. -/
def width (rows : List (List Cell)) : Nat := (rows.map List.length).foldr max 0

namespace Cell

def isEmpty : Cell → Bool
  | empty => true
  | _ => false

def isError : Cell → Bool
  | error _ => true
  | _ => false

def error? : Cell → Option CellError
  | error e => some e
  | _ => none

/-- The number of a numeric cell; texts and truth values have none. -/
def number? : Cell → Option Float
  | int i => some (Decimal.floatOfInt i)
  | number x => some x
  | _ => none

/-- The number that a cell contributes to an aggregate: a text counts by the number it begins
with; truth values, blanks and errors never count. -/
def entry? : Cell → Option Float
  | int i => some (Decimal.floatOfInt i)
  | number x => some x
  | text s => Decimal.leadingNumber? s
  | _ => none

/-- A block of one cell is that cell, a block without cells is empty; a value that is no block is
itself. -/
def single : Cell → Except NotSingle Cell
  | array [[c]] => .ok c
  | array rows =>
    if rows.all List.isEmpty then .ok empty else .error ⟨rows.length, Worksheet.width rows⟩
  | c => .ok c

theorem entry?_of_number? (c : Cell) (x : Float) (h : c.number? = some x) :
    c.entry? = some x := by
  cases c <;> simp_all [number?, entry?]

theorem error?_eq_some_iff (c : Cell) (e : CellError) : c.error? = some e ↔ c = error e := by
  cases c <;> simp [error?]

theorem isEmpty_iff (c : Cell) : c.isEmpty = true ↔ c = empty := by
  cases c <;> simp [isEmpty]

end Cell

end Worksheet
