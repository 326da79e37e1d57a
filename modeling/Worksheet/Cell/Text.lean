import Worksheet.Cell
import Worksheet.Decimal.Layout
import Worksheet.Text.Quoted

/-!
The text of a cell: what stands in a criteria block or a header row. A block is written as a
listing of its rows, in which every cell shows its kind.
-/

set_option autoImplicit false
set_option relaxedAutoImplicit false

namespace Worksheet

def intText (i : Int64) : String := String.ofList (Decimal.integerText i.toInt)

def CellError.listing (e : CellError) : String :=
  let message := match e.message with
    | none => "None"
    | some m => "Some(" ++ Text.quoted m ++ ")"
  "ExcelError \x7b kind: " ++ e.kind.label ++ ", message: " ++ message ++ " \x7d"

namespace Cell

/-- Items between brackets, separated by a comma and a blank. -/
def bracketed (items : List String) : String := "[" ++ ", ".intercalate items ++ "]"

mutual

/-- A cell in a listing, under the name of its kind. -/
def listing : Cell → String
  | int i => "Int(" ++ intText i ++ ")"
  | number x => "Number(" ++ Decimal.Layout.listing.write x ++ ")"
  | text s => "Text(" ++ Text.quoted s ++ ")"
  | boolean b => "Boolean(" ++ (if b then "true" else "false") ++ ")"
  | array rows => "Array(" ++ bracketed (rowListings rows) ++ ")"
  | empty => "Empty"
  | error e => "Error(" ++ e.listing ++ ")"

def cellListings : List Cell → List String
  | [] => []
  | c :: cs => c.listing :: cellListings cs

def rowListings : List (List Cell) → List String
  | [] => []
  | row :: rows => bracketed (cellListings row) :: rowListings rows

end

def display : Cell → String
  | int i => intText i
  | number x => Decimal.Layout.plain.write x
  | text s => s
  | boolean b => if b then "TRUE" else "FALSE"
  | array rows => bracketed (rowListings rows)
  | empty => ""
  | error e => e.text

theorem cellListings_eq_map (cs : List Cell) : cellListings cs = cs.map listing := by
  induction cs with
  | nil => simp [cellListings]
  | cons c cs ih => simp [cellListings, ih]

theorem rowListings_eq_map (rows : List (List Cell)) :
    rowListings rows = rows.map fun row ↦ bracketed (row.map listing) := by
  induction rows with
  | nil => simp [rowListings]
  | cons row rows ih => simp [rowListings, ih, cellListings_eq_map]

end Cell

end Worksheet
