import Worksheet.Cell.Text

/-!
Rectangular reading of rows that may be ragged. The width is the length of the longest row, and a
position outside the rows reads as empty. A block borrows its rows or owns them; the measures of the
rows are taken once, when the block is made.
-/

set_option autoImplicit false
set_option relaxedAutoImplicit false

namespace Worksheet

/-- Where the rows of a block are kept. -/
inductive Backing where
  | borrowed (rows : List (List Cell))
  | owned (rows : List (List Cell))

def Backing.rows : Backing → List (List Cell)
  | borrowed rows => rows
  | owned rows => rows

structure Block where
  backing : Backing
  height : Nat
  width : Nat
  height_eq : height = backing.rows.length
  width_eq : width = Worksheet.width backing.rows

namespace Block

def ofBacking (backing : Backing) : Block :=
  ⟨backing, backing.rows.length, Worksheet.width backing.rows, rfl, rfl⟩

def borrowed (rows : List (List Cell)) : Block := ofBacking (.borrowed rows)

def owned (rows : List (List Cell)) : Block := ofBacking (.owned rows)

/-- A value as a block: the rows of an array are borrowed, any other value is a cell of its own. -/
def ofCell : Cell → Block
  | .array rows => borrowed rows
  | c => owned [[c]]

def rows (b : Block) : List (List Cell) := b.backing.rows

/-- The same rows, borrowed from the block, with the measures that it has taken. -/
def view (b : Block) : Block := { b with backing := .borrowed b.rows }

def isEmpty (b : Block) : Bool := b.height == 0 || b.width == 0

def cell (b : Block) (row column : Nat) : Cell :=
  (b.rows[row]?.bind (·[column]?)).getD .empty

/-- A row filled up to the width of the block. -/
def row (b : Block) (row : Nat) : List Cell := (List.range b.width).map (b.cell row)

/-- The rows filled up to a rectangle. -/
def toRows (b : Block) : List (List Cell) := (List.range b.height).map b.row

/-- The cell of a block of one row and one column. -/
def only? (b : Block) : Option Cell :=
  if b.height = 1 ∧ b.width = 1 then some (b.cell 0 0) else none

def describe (b : Block) : String :=
  String.ofList ("RangeView \x7b rows: ".toList ++ Decimal.natText b.height ++
    ", cols: ".toList ++ Decimal.natText b.width ++ " \x7d".toList)

@[simp] theorem rows_borrowed (rows : List (List Cell)) : (borrowed rows).rows = rows := rfl

theorem height_eq_length (b : Block) : b.height = b.rows.length := b.height_eq

theorem width_eq_width (b : Block) : b.width = Worksheet.width b.rows := b.width_eq

theorem cell_of_height_le (b : Block) (row column : Nat) (h : b.height ≤ row) :
    b.cell row column = .empty := by
  have : b.rows[row]? = none := List.getElem?_eq_none (b.height_eq_length ▸ h)
  simp [cell, this]

@[simp] theorem length_row (b : Block) (r : Nat) : (b.row r).length = b.width := by simp [row]

@[simp] theorem length_toRows (b : Block) : b.toRows.length = b.height := by simp [toRows]

end Block

end Worksheet
