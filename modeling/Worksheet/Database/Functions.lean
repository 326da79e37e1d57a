import Worksheet.Arithmetic
import Worksheet.Database.Query
import Worksheet.SheetFunction

/-!
The twelve database functions. Each takes a database, a field and a criteria block, and reduces the
values of the field on the selected records.

The sums, counts, extremes and the product of no values are zero, whether no record is selected or
no value survives. The average and the deviation family report a division by zero instead, and the
look-up of a single record reports that there is none.
-/

set_option autoImplicit false
set_option relaxedAutoImplicit false

namespace Worksheet.Database

open Worksheet.Criteria

inductive EvalFault where
  | argumentCount (count : Nat)
  | argument (e : CellError)
  | query (fault : QueryFault)
  /-- A selected cell holds an error. -/
  | cell (e : CellError)
  | nothingSelected
  | nothingToAverage
  | noNumbers
  | noRecord
  | manyRecords

namespace EvalFault

def error : EvalFault → CellError
  | argumentCount count =>
    ⟨.value, "D-function expects 3 arguments, got " ++ String.ofList (Decimal.natText count)⟩
  | argument e => e
  | query fault => fault.error
  | cell e => e
  | nothingSelected => ⟨.division, "No record matches criteria"⟩
  | nothingToAverage => ⟨.division, "No numeric values to average"⟩
  | noNumbers => ⟨.division, "No numeric values"⟩
  | noRecord => ⟨.value, "No record matches criteria"⟩
  | manyRecords => ⟨.number, "More than one record matches criteria"⟩

def isDivision (fault : EvalFault) : Bool := fault.error.kind == .division

end EvalFault

/-- The values that the criteria select, if they select a record. The first argument that is an
error is the fault. -/
def gather (m : Matcher) (options : QueryOptions) (args : List Argument) :
    Except EvalFault (Option (List Cell)) :=
  match args with
  | [database, field, criteria] =>
    match args.findSome? Argument.error? with
    | some e => .error (.argument e)
    | none =>
      (Query.run m options database.block field.value criteria.block).mapError .query
  | _ => .error (.argumentCount args.length)

/-- The field argument reads as an empty cell. -/
def fieldIsEmpty (args : List Argument) : Bool :=
  match args with
  | [_, field, _] =>
    match field.value.single with
    | .ok c => c.isEmpty
    | .error _ => false
  | _ => false

/-- Reductions that are zero on nothing. -/
inductive Aggregate where
  | sum
  | count
  | countA
  | max
  | min
  | product
  deriving DecidableEq, Repr

namespace Aggregate

/-- Counts keep blanks and accept an empty field. -/
def options : Aggregate → QueryOptions
  | count | countA => { allowEmptyField := true, keepEmpty := true }
  | _ => {}

/-- Fold from the first number on; zero when there is none. -/
def foldFirst (f : Float → Float → Float) : List Float → Float
  | [] => 0.0
  | x :: xs => xs.foldl f x

/-- The number of values that `countA` counts. -/
def countFilled (values : List Cell) : Nat := (values.filter fun c ↦ !c.isEmpty).length

/-- The number of values that `count` counts: with an empty field every record, else the values
that have a number. -/
def countNumbers (emptyField : Bool) (values : List Cell) : Nat :=
  if emptyField then values.length else (values.filterMap Cell.entry?).length

def reduce (a : Aggregate) (emptyField : Bool) (values : List Cell) : Float :=
  let numbers := values.filterMap Cell.entry?
  match a with
  | sum => Worksheet.sum numbers
  | count => Float.ofNat (countNumbers emptyField values)
  | countA => Float.ofNat (countFilled values)
  | max => foldFirst upperFloat numbers
  | min => foldFirst lowerFloat numbers
  | product => foldFirst (· * ·) numbers

def eval (a : Aggregate) (m : Matcher) (args : List Argument) : Except EvalFault Cell :=
  match gather m a.options args with
  | .ok (some values) => .ok (.number (a.reduce (fieldIsEmpty args) values))
  | .ok none => .ok (.number 0.0)
  | .error fault => if fault.isDivision then .ok (.number 0.0) else .error fault

end Aggregate

namespace Average

def eval (m : Matcher) (args : List Argument) : Except EvalFault Cell := do
  match ← gather m {} args with
  | none => throw .nothingSelected
  | some values =>
    let numbers := values.filterMap Cell.entry?
    if numbers.isEmpty then throw .nothingToAverage
    else return .number (numbers.foldl (· + ·) 0.0 / Float.ofNat numbers.length)

end Average

namespace SingleRecord

/-- The only value, whatever it is. -/
def eval (m : Matcher) (args : List Argument) : Except EvalFault Cell :=
  match gather m {} args with
  | .ok (some [value]) => .ok value
  | .ok (some (_ :: _ :: _)) => .error .manyRecords
  | .ok _ => .error .noRecord
  | .error fault => .error (if fault.isDivision then .noRecord else fault)

end SingleRecord

inductive Deviation where
  | stdDev
  | stdDevP
  | var
  | varP
  deriving DecidableEq, Repr

namespace Deviation

/-- Only the sample standard deviation passes over blanks before it selects. -/
def options : Deviation → QueryOptions
  | stdDev => {}
  | _ => { keepEmpty := true }

/-- The numbers of the numeric cells, up to the first error. -/
def samples : List Cell → Except EvalFault (List Float)
  | [] => .ok []
  | .error e :: _ => .error (.cell e)
  | c :: cs =>
    match c.number? with
    | some x => (samples cs).map (x :: ·)
    | none => samples cs

def reduce (d : Deviation) (xs : List Float) : Float :=
  match d with
  | stdDev => (sampleVariance xs).sqrt
  | stdDevP => (populationVariance xs).sqrt
  | var => sampleVariance xs
  | varP => populationVariance xs

def eval (d : Deviation) (m : Matcher) (args : List Argument) : Except EvalFault Cell := do
  match ← gather m d.options args with
  | none => throw .nothingSelected
  | some values =>
    let xs ← samples values
    if xs.isEmpty then throw .noNumbers else return .number (d.reduce xs)

end Deviation

/-- How a database function reduces the selected values. -/
inductive Reduction where
  | aggregate (a : Aggregate)
  | average
  | singleRecord
  | deviation (d : Deviation)
  deriving DecidableEq, Repr

def Reduction.eval : Reduction → Matcher → List Argument → Except EvalFault Cell
  | .aggregate a => a.eval
  | .average => Average.eval
  | .singleRecord => SingleRecord.eval
  | .deviation d => d.eval

/-- A database function under its name. -/
def databaseFunction (name : String) (capabilities : List Capability) (reduction : Reduction) :
    SheetFunction where
  name := name
  minArguments := 3
  maxArguments := some 3
  capabilities := capabilities
  parameters := [.rangeOrArray, .any, .rangeOrArray]
  eval m args := (reduction.eval m args).mapError EvalFault.error

/-- The database functions in order of registration. -/
def functions : List SheetFunction :=
  let counting : List Capability := [.pure, .reduction]
  let numeric : List Capability := [.pure, .reduction, .numericOnly]
  [databaseFunction "DSUM" counting (.aggregate .sum),
    databaseFunction "DAVERAGE" numeric .average,
    databaseFunction "DCOUNT" counting (.aggregate .count),
    databaseFunction "DCOUNTA" counting (.aggregate .countA),
    databaseFunction "DGET" [.pure, .lookup] .singleRecord,
    databaseFunction "DMAX" numeric (.aggregate .max),
    databaseFunction "DMIN" numeric (.aggregate .min),
    databaseFunction "DPRODUCT" numeric (.aggregate .product),
    databaseFunction "DSTDEV" numeric (.deviation .stdDev),
    databaseFunction "DSTDEVP" numeric (.deviation .stdDevP),
    databaseFunction "DVAR" numeric (.deviation .var),
    databaseFunction "DVARP" numeric (.deviation .varP)]

end Worksheet.Database
