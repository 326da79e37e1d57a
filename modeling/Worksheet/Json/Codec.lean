import Worksheet.Criteria.Matcher
import Worksheet.Json.Fields
import Worksheet.Json.Reader
import Worksheet.Pivot.Accumulator
import Worksheet.Pivot.Kind

/-!
Stored forms of cells, errors, kinds, matching options and accumulators. A cell is written under
the name of its kind, as the only member of an object; an empty cell is its name alone. Records are
objects with their fields in order.
-/

set_option autoImplicit false
set_option relaxedAutoImplicit false

namespace Worksheet

open Json

namespace ErrorKind

def toJson (k : ErrorKind) : Json := .text k.label

def ofJson? (depth : Nat) (j : Json) : Option ErrorKind := (label? depth j).bind ofLabel?

end ErrorKind

namespace Pivot.Kind

def toJson (k : Kind) : Json := .text k.label

def ofJson? (depth : Nat) (j : Json) : Option Kind := (label? depth j).bind ofLabel?

end Pivot.Kind

namespace CellError

def toJson (e : CellError) : Json :=
  .object [(some "kind", e.kind.toJson), (some "message", ofOption .text e.message)]

def ofJson? (depth : Nat) (j : Json) : Option CellError := do
  match ← record? depth ["kind", "message"] j with
  | [kind, message] =>
    return {
      kind := ← kind.required? (ErrorKind.ofJson? (depth - 1))
      message := ← message.optional? string? }
  | _ => none

end CellError

namespace Cell

/-- A member of one name. -/
def tagged (tag : String) (j : Json) : Json := .object [(some tag, j)]

mutual

def toJson : Cell → Json
  | int i => tagged "Int" (ofInt i.toInt)
  | number x => tagged "Number" (ofFloat x)
  | text s => tagged "Text" (.text s)
  | boolean b => tagged "Boolean" (.bool b)
  | array rows => tagged "Array" (.array (rowsToJson rows))
  | empty => .text "Empty"
  | error e => tagged "Error" e.toJson

def cellsToJson : List Cell → List Json
  | [] => []
  | c :: cs => c.toJson :: cellsToJson cs

def rowsToJson : List (List Cell) → List Json
  | [] => []
  | row :: rows => Json.array (cellsToJson row) :: rowsToJson rows

end

/-- A block takes three levels: its tag, its rows, and the cells of a row. -/
def ofJson? (read : DoubleReader) : Nat → Json → Option Cell
  | 0, j => if string? j == some "Empty" then some empty else none
  | depth + 1, .object [(some tag, body)] =>
    if tag = "Int" then (int64? body).map int
    else if tag = "Number" then (float? read body).map number
    else if tag = "Text" then (string? body).map text
    else if tag = "Boolean" then (bool? body).map boolean
    else if tag = "Array" then
      match depth with
      | 0 => none
      | 1 => (items? (fun _ ↦ none) body).map array
      | depth + 2 => (items? (items? (ofJson? read depth)) body).map array
    else if tag = "Empty" then
      match body with
      | .null => some empty
      | _ => none
    else if tag = "Error" then (CellError.ofJson? depth body).map error
    else none
  | _ + 1, j => if string? j == some "Empty" then some empty else none

end Cell

namespace Criteria.Options

def toJson (o : Options) : Json :=
  .object [(some "implicit_prefix_match", .bool o.openEnded),
    (some "case_sensitive", .bool o.caseSensitive)]

/-- Fields that are not given have their defaults. -/
def ofJson? (depth : Nat) (j : Json) : Option Options := do
  match ← record? depth ["implicit_prefix_match", "case_sensitive"] j with
  | [openEnded, caseSensitive] =>
    let default : Options := {}
    return {
      openEnded := ← openEnded.defaulted? default.openEnded bool?
      caseSensitive := ← caseSensitive.defaulted? default.caseSensitive bool? }
  | _ => none

end Criteria.Options

namespace Pivot.Accumulator

def fieldNames : List String :=
  ["count", "count_nums", "min", "max", "sum", "product", "mean", "m2", "error", "is_calculated"]

def toJson (s : MachineAccumulator) : Json :=
  let values := [ofInt s.count.toNat, ofInt s.numbers.toNat, ofFloat s.min, ofFloat s.max,
    ofFloat s.sum, ofFloat s.product, ofFloat s.mean, ofFloat s.spread,
    ofOption ErrorKind.toJson s.error, .bool s.calculated]
  .object ((fieldNames.map some).zip values)

def ofJson? (read : DoubleReader) (depth : Nat) (j : Json) : Option MachineAccumulator := do
  match ← record? depth fieldNames j with
  | [count, numbers, min, max, sum, product, mean, spread, error, calculated] =>
    return {
      count := ← count.required? count?
      numbers := ← numbers.required? count?
      min := ← min.required? (float? read)
      max := ← max.required? (float? read)
      sum := ← sum.required? (float? read)
      product := ← product.required? (float? read)
      mean := ← mean.required? (float? read)
      spread := ← spread.required? (float? read)
      error := ← error.optional? (ErrorKind.ofJson? (depth - 1))
      calculated := ← calculated.required? bool? }
  | _ => none

end Pivot.Accumulator

namespace Json

def write (j : Json) : String := String.ofList j.render

/-- Read a whole text as a value of some type. -/
def readAs? {β : Type} (ofJson? : Nat → Json → Option β) (s : String) : Option β :=
  (parse s).bind (ofJson? maxDepth)

end Json

end Worksheet
