import Worksheet.Decimal.Integer
import Worksheet.Decimal.Layout
import Worksheet.Decimal.Numeral
import Worksheet.Json.Basic
import Worksheet.Json.Lexer

/-!
Numbers, labels and records in JSON. A record is an object with named fields, of which unknown ones
are passed over and known ones may come once, or an array of its fields in order. A label is a
string, or an object with the label as its only key and null for its value.

Where a value is wanted, containers nest at most `maxDepth` deep; the readers of containers take
the number of levels that are left. How the text of a number becomes a double is left open: the
readers of doubles take a `DoubleReader`.
-/

set_option autoImplicit false
set_option relaxedAutoImplicit false

namespace Worksheet.Json

def maxDepth : Nat := 127

def ofInt (i : Int) : Json := number (Decimal.integerText i)

/-- Infinities and NaN have no number, and are written as null. -/
def ofFloat (x : Float) : Json :=
  if x.isFinite then number (Decimal.Layout.stored.write x).toList else null

def ofOption {β : Type} (write : β → Json) : Option β → Json
  | none => null
  | some b => write b

/-- A number without point and exponent. Zero with a minus is no integer. -/
def int? : Json → Option Int
  | number ('-' :: ds) =>
    if ds.all Lexer.isDigit ∧ ds ≠ ['0'] then (Decimal.natValue? ds).map fun n ↦ -n else none
  | number ds => if ds.all Lexer.isDigit then (Decimal.natValue? ds).map fun n ↦ n else none
  | _ => none

def int64? (j : Json) : Option Int64 :=
  (int? j).bind fun i ↦
    if Int64.minValue.toInt ≤ i ∧ i ≤ Int64.maxValue.toInt then some (Int64.ofInt i) else none

def count? (j : Json) : Option UInt64 :=
  (int? j).bind fun i ↦ if 0 ≤ i ∧ i < UInt64.size then some (UInt64.ofNat i.toNat) else none

/-- The double that a number is read as; none if the number is refused. -/
abbrev DoubleReader := List Char → Option Float

/-- The nearest double of any number that is not beyond the doubles. -/
def nearestDouble? : DoubleReader := fun lexeme ↦
  (Decimal.Numeral.scan lexeme).bind fun (n, _) ↦
    n.toFloat?.bind fun x ↦ if x.isFinite then some x else none

def float? (read : DoubleReader) : Json → Option Float
  | number lexeme => read lexeme
  | _ => none

def bool? : Json → Option Bool
  | bool b => some b
  | _ => none

def string? : Json → Option String
  | string s => s
  | _ => none

def label? (depth : Nat) : Json → Option String
  | string s => s
  | object [(key, null)] => if depth = 0 then none else key
  | _ => none

/-- The items of an array. -/
def items? {β : Type} (read : Json → Option β) : Json → Option (List β)
  | array items => items.mapM read
  | _ => none

/-- What a record holds for one of its fields. -/
inductive Slot where
  | given (j : Json)
  | missing
  /-- The array of the fields ends before this one. -/
  | beyond

namespace Slot

def ofMembers? (members : List (Option String × Json)) (name : String) : Option Slot :=
  match members.filter fun member ↦ member.1 == some name with
  | [] => some missing
  | [(_, j)] => some (given j)
  | _ => none

def required? {β : Type} (read : Json → Option β) : Slot → Option β
  | given j => read j
  | _ => none

/-- Null and a missing field are none, but an array has to hold the field. -/
def optional? {β : Type} (read : Json → Option β) : Slot → Option (Option β)
  | given null => some none
  | given j => (read j).map some
  | missing => some none
  | beyond => none

def defaulted? {β : Type} (default : β) (read : Json → Option β) : Slot → Option β
  | given j => read j
  | _ => some default

end Slot

/-- The slots of the named fields. -/
def record? (depth : Nat) (names : List String) : Json → Option (List Slot)
  | object members =>
    if depth = 0 ∨ members.any (·.1.isNone) then none
    else names.mapM (Slot.ofMembers? members)
  | array items =>
    if depth = 0 ∨ names.length < items.length then none
    else
      some (items.map .given ++ List.replicate (names.length - items.length) .beyond)
  | _ => none

theorem float?_ofFloat_of_not_finite (read : DoubleReader) (x : Float) (h : x.isFinite = false) :
    float? read (ofFloat x) = none := by
  simp [ofFloat, h, float?]

end Worksheet.Json
