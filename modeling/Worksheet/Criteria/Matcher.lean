import Worksheet.Cell
import Worksheet.Criteria.Operator
import Worksheet.Criteria.Wildcard
import Worksheet.Text.Lowercase

/-!
Conditions, and the rules by which a matcher reads and tests them.

A condition is an operator with a typed operand. A matcher is any way of reading a criteria text as
a condition and of testing a cell against one; `Matcher.standard` reads numbers and truth values
where it can, compares numbers with numbers, and takes texts as wildcard patterns.
-/

set_option autoImplicit false
set_option relaxedAutoImplicit false

namespace Worksheet.Criteria

structure Condition where
  operator : Operator
  operand : Cell

/-- A bare text becomes the pattern of all texts that begin with it. -/
def Condition.openEnd (c : Condition) : Condition :=
  match c.operator, c.operand with
  | .bare, .text s => ⟨.bare, .text (s.push '*')⟩
  | _, _ => c

structure Options where
  /-- A bare text matches whatever begins with it. -/
  openEnded : Bool := true
  caseSensitive : Bool := false
  deriving DecidableEq, Repr

structure Matcher where
  parse : String → Condition
  test : Cell → Condition → Bool
  /-- A bare text matches whatever begins with it. -/
  openEnded : Bool := true

namespace Options

def fold (o : Options) (s : String) : String :=
  if o.caseSensitive then s else Text.lowercase s

/-- Order of doubles; NaN has none. -/
def compareFloats (x y : Float) : Option Ordering :=
  if x < y then some .lt else if x == y then some .eq else if y < x then some .gt else none

/-- Whether a cell is the operand. With `loose`, a text that is a number equals that number. -/
def equals (o : Options) (loose : Bool) (value operand : Cell) : Bool :=
  match operand with
  | .text p =>
    if p.isEmpty then
      match value with
      | .empty => true
      | .text s => s.isEmpty
      | _ => false
    else
      match value with
      | .text s => Wildcard.test (o.fold p) (o.fold s)
      | _ => false
  | .number y => equalsNumber y
  | .int i => equalsNumber (Decimal.floatOfInt i)
  | .boolean b =>
    match value with
    | .boolean a => a == b
    | _ => false
  | _ => false
where
  equalsNumber (y : Float) : Bool :=
    match value with
    | .number x => x == y
    | .int i => Decimal.floatOfInt i == y
    | .text s => loose && ((Decimal.wholeNumber? s).map (· == y)).getD false
    | _ => false

/-- The order of two numbers, two texts or two truth values. -/
def order? (o : Options) (value operand : Cell) : Option Ordering :=
  match value, operand with
  | .text s, .text p => some (compare (o.fold s) (o.fold p))
  | .boolean a, .boolean b => some (compare a b)
  | _, _ => value.number?.bind fun x ↦ operand.number?.bind fun y ↦ compareFloats x y

/-- A number, a truth value in any ASCII case, or else a text. -/
def operandOf (s : String) : Cell :=
  match Decimal.wholeNumber? s with
  | some x => .number x
  | none =>
    if Text.sameIgnoringAsciiCase s "TRUE" then .boolean true
    else if Text.sameIgnoringAsciiCase s "FALSE" then .boolean false
    else .text s

def parse (s : String) : Condition :=
  let (op, rest) := Operator.split s
  ⟨op, operandOf rest⟩

def test (o : Options) (value : Cell) (c : Condition) : Bool :=
  match c.operator with
  | .bare => o.equals true value c.operand
  | .eq => o.equals false value c.operand
  | .ne => !o.equals false value c.operand
  | op => ((o.order? value c.operand).map op.accepts).getD false

end Options

def Matcher.standard (o : Options) : Matcher where
  parse := Options.parse
  test := o.test
  openEnded := o.openEnded

theorem Condition.openEnd_of_ne_bare (c : Condition) (h : c.operator ≠ .bare) :
    c.openEnd = c := by
  unfold Condition.openEnd
  split
  · next h' _ => exact absurd h' h
  · rfl

theorem Options.test_ne (o : Options) (value operand : Cell) :
    o.test value ⟨.ne, operand⟩ = !o.test value ⟨.eq, operand⟩ := rfl

end Worksheet.Criteria
