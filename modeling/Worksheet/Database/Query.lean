import Worksheet.Criteria.Matcher
import Worksheet.Database.HeaderIndex
import Worksheet.Database.RowMask
import Worksheet.Decimal.Double

/-!
Selection of the values of one field of a database by a criteria block.

Each row below the criteria headers is an alternative. Within a row, the cells under headers that
name a database column must all hold; a blank holds of everything and an error of nothing. A
criteria block without such a header, or without a row below its headers, selects every record.

`run` answers with the values of the field on the selected records, with `none` when the criteria
select no record, or with the fault that comes first: a field that fails on sight, then a field
that no header names, then a selection whose values are all blank.
-/

set_option autoImplicit false
set_option relaxedAutoImplicit false

namespace Worksheet.Database

open Worksheet.Criteria

structure QueryOptions where
  /-- An empty field stands for the column of the first criteria header. -/
  allowEmptyField : Bool := false
  /-- Blanks are values. -/
  keepEmpty : Bool := false
  deriving DecidableEq, Repr

inductive QueryFault where
  | fieldNotSingle
  | fieldError (e : CellError)
  | fieldEmpty
  | noSuchOrdinal (ordinal : Float) (width : Nat)
  | noCriteriaHeader
  | noSuchHeader (header : String)
  | nothingSurvives

namespace QueryFault

def error : QueryFault → CellError
  | fieldNotSingle => ⟨.value, "Field must be a single cell"⟩
  | fieldError e => e
  | fieldEmpty => ⟨.value, "Field is empty"⟩
  | noSuchOrdinal ordinal width =>
    ⟨.value, "Field index " ++ Decimal.Layout.plain.write ordinal ++
      " does not name a column (1-" ++ String.ofList (Decimal.natText width) ++ ")"⟩
  | noCriteriaHeader => ⟨.value, "Empty field and no criteria header"⟩
  | noSuchHeader header => ⟨.value, "Field '" ++ header ++ "' not found in database headers"⟩
  | nothingSurvives => ⟨.division, "No values survived the criteria"⟩

end QueryFault

/-- What a field says before any record is tested. -/
inductive Field where
  | named (header : String)
  | firstCriteriaHeader
  deriving DecidableEq, Repr

namespace Field

/-- A number counts columns from one. -/
def ofOrdinal (data : HeaderIndex) (ordinal : Float) : Except QueryFault Field :=
  let header := match Decimal.toNat? ordinal with
    | some (n + 1) => data.headerAt? n
    | _ => none
  match header with
  | some h => .ok (named h)
  | none => .error (.noSuchOrdinal ordinal data.width)

/-- Numbers, texts that are numbers and truth values are ordinals; any other value is the text of a
header, which need not exist yet. -/
def resolve (options : QueryOptions) (data : HeaderIndex) (field : Cell) :
    Except QueryFault Field :=
  match field.single with
  | .error _ => .error .fieldNotSingle
  | .ok (.error e) => .error (.fieldError e)
  | .ok .empty => if options.allowEmptyField then .ok firstCriteriaHeader else .error .fieldEmpty
  | .ok (.number x) => ofOrdinal data x
  | .ok (.int i) => ofOrdinal data (Decimal.floatOfInt i)
  | .ok (.boolean b) => ofOrdinal data (if b then 1.0 else 0.0)
  | .ok (.text s) =>
    match Decimal.wholeNumber? s with
    | some x => ofOrdinal data x
    | none => .ok (named s)
  | .ok (.array rows) => .ok (named (Cell.array rows).display)

/-- The header of the column whose values are wanted. -/
def header (field : Field) (criteria : HeaderIndex) : Except QueryFault String :=
  match field with
  | named h => .ok h
  | firstCriteriaHeader =>
    match criteria.headerAt? 0 with
    | some h => .ok h
    | none => .error .noCriteriaHeader

end Field

/-- What a criteria cell asks of a value. -/
inductive CellTest where
  | always
  | never
  | holds (c : Condition)

namespace CellTest

def ofCell (m : Matcher) (cell : Cell) : CellTest :=
  if cell.isError then never
  else
    let text := cell.display
    if text.isEmpty then always
    else
      let c := m.parse text
      holds (if m.openEnded then c.openEnd else c)

def accepts (m : Matcher) (t : CellTest) (value : Cell) : Bool :=
  match t with
  | always => true
  | never => false
  | holds c => m.test value c

end CellTest

namespace Query

/-- The criteria columns whose header names a database column, with the values of that column. -/
def applied (data criteria : HeaderIndex) : List (Nat × List Cell) :=
  (List.range criteria.width).filterMap fun column ↦
    ((criteria.headerAt? column).bind data.column?).map fun values ↦ (column, values)

/-- The records that satisfy every applied cell of a criteria row. -/
def branch (m : Matcher) (records : Nat) (block : Block) (applied : List (Nat × List Cell))
    (row : Nat) : RowMask :=
  applied.foldl
    (fun mask (column, values) ↦
      let test := CellTest.ofCell m (block.cell row column)
      mask.and ⟨values.map (test.accepts m)⟩)
    (RowMask.all records)

/-- The records that some criteria row accepts; none when the criteria do not apply. -/
def selection? (m : Matcher) (data criteria : HeaderIndex) (block : Block) : Option RowMask :=
  let columns := applied data criteria
  if columns.isEmpty ∨ criteria.records = 0 then none
  else
    some <| (List.range criteria.records).foldl
      (fun mask record ↦ mask.or (branch m data.records block columns (record + 1)))
      (RowMask.none data.records)

/-- The values of the wanted column on the selected records. -/
def project (options : QueryOptions) (data criteria : HeaderIndex) (field : Field)
    (mask : RowMask) : Except QueryFault (List Cell) := do
  let header ← field.header criteria
  match data.column? header with
  | none => throw (.noSuchHeader header)
  | some column =>
    let values := (mask.pick column).filter fun c ↦ options.keepEmpty || !c.isEmpty
    if values.isEmpty then throw .nothingSurvives else return values

def run (m : Matcher) (options : QueryOptions) (database : Block) (field : Cell)
    (criteria : Block) : Except QueryFault (Option (List Cell)) := do
  let data := HeaderIndex.ofDatabase database
  let conditions := HeaderIndex.ofCriteria criteria
  let field ← Field.resolve options data field
  match selection? m data conditions criteria with
  | none => some <$> project options data conditions field (RowMask.all data.records)
  | some mask =>
    if mask.count = 0 then return none
    else some <$> project options data conditions field mask

end Query

end Worksheet.Database
