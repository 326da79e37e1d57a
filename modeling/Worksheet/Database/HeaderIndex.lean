import Worksheet.Block

/-!
Columns of a block under the texts of its header row, the first row. In a database a repeated
header adds no column of its own: it only fills the blanks of the first column of that name. In a
criteria block every column keeps its header, and the columns of one header share a bucket that is
filled row by row.
-/

set_option autoImplicit false
set_option relaxedAutoImplicit false

namespace Worksheet.Database

structure HeaderIndex where
  /-- The header of each column; none for a repeated header of a database. -/
  headers : List (Option String)
  columns : List (String × List Cell)
  /-- The number of rows below the header row. -/
  records : Nat

namespace HeaderIndex

def width (i : HeaderIndex) : Nat := i.headers.length

def headerAt? (i : HeaderIndex) (column : Nat) : Option String := i.headers[column]?.join

def column? (i : HeaderIndex) (header : String) : Option (List Cell) := i.columns.lookup header

/-- The header as it is kept in the index. -/
def key? (i : HeaderIndex) (header : String) : Option String :=
  (i.columns.find? fun entry ↦ header == entry.1).map Prod.fst

def contains (i : HeaderIndex) (header : String) : Bool := (i.column? header).isSome

/-- The text of a cell of the header row. -/
def headerText (b : Block) (column : Nat) : String := (b.cell 0 column).display

/-- The cells of a column below the header row. -/
def below (b : Block) (column : Nat) : List Cell :=
  (List.range (b.height - 1)).map fun record ↦ b.cell (record + 1) column

/-- Each blank is replaced by the cell beside it. -/
def backfill (cells others : List Cell) : List Cell :=
  List.zipWith (fun c other ↦ if c.isEmpty then other else c) cells others

/-- One more column of a database. -/
def addColumn (i : HeaderIndex) (header : String) (cells : List Cell) : HeaderIndex :=
  if i.contains header then
    { i with
      headers := i.headers ++ [none]
      columns := i.columns.map fun (key, old) ↦
        (key, if header == key then backfill old cells else old) }
  else
    { i with
      headers := i.headers ++ [some header]
      columns := i.columns ++ [(header, cells)] }

def ofDatabase (b : Block) : HeaderIndex :=
  let columns := if b.height = 0 then [] else List.range b.width
  columns.foldl (fun i column ↦ i.addColumn (headerText b column) (below b column))
    ⟨[], [], b.height - 1⟩

/-- The cells below the columns of one header, row by row and from left to right. -/
def bucket (b : Block) (header : String) : List Cell :=
  (List.range (b.height - 1)).flatMap fun record ↦
    ((List.range b.width).filter fun column ↦ headerText b column == header).map fun column ↦
      b.cell (record + 1) column

def ofCriteria (b : Block) : HeaderIndex :=
  let headers := if b.height = 0 then [] else (List.range b.width).map (headerText b)
  { headers := headers.map some
    columns := headers.eraseDups.map fun header ↦ (header, bucket b header)
    records := b.height - 1 }

theorem headerAt?_of_width_le (i : HeaderIndex) (column : Nat) (h : i.width ≤ column) :
    i.headerAt? column = none := by
  have : i.headers[column]? = none := List.getElem?_eq_none h
  simp [headerAt?, this]

@[simp] theorem length_below (b : Block) (column : Nat) :
    (below b column).length = b.height - 1 := by
  simp [below]

@[simp] theorem width_addColumn (i : HeaderIndex) (header : String) (cells : List Cell) :
    (i.addColumn header cells).width = i.width + 1 := by
  unfold addColumn
  split <;> simp [width]

@[simp] theorem records_addColumn (i : HeaderIndex) (header : String) (cells : List Cell) :
    (i.addColumn header cells).records = i.records := by
  unfold addColumn
  split <;> rfl

@[simp] theorem records_ofCriteria (b : Block) : (ofCriteria b).records = b.height - 1 := rfl

end HeaderIndex

end Worksheet.Database
