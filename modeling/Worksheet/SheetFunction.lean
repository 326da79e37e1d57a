import Worksheet.Argument
import Worksheet.Criteria.Matcher

/-!
Functions that a worksheet can call: a signature that a caller may inspect, and the evaluation. A
call counts its arguments first, and turns a failure into an error value.
-/

set_option autoImplicit false
set_option relaxedAutoImplicit false

namespace Worksheet

/-- The declared kind of an argument. -/
inductive ArgumentKind where
  | number
  | text
  | logical
  | range
  | any
  deriving DecidableEq, Repr

namespace ArgumentKind

def name : ArgumentKind → String
  | number => "number"
  | text => "text"
  | logical => "logical"
  | range => "range"
  | any => "any"

/-- The names that are read, some kinds having several. -/
def names : List (String × ArgumentKind) :=
  [("number", number), ("text", text), ("logical", logical), ("range", range),
    ("reference", range), ("", any), ("_", any), ("any", any)]

/-- A name in any ASCII case, with blanks around it. -/
def parse? (s : String) : Option ArgumentKind := names.lookup (Text.asciiLower (Text.trimmed s))

end ArgumentKind

inductive Shape where
  | scalar
  | range
  /-- May arrive as a block. -/
  | array
  deriving DecidableEq, Repr

def Shape.name : Shape → String
  | scalar => "scalar"
  | range => "range"
  | array => "array"

structure Parameter where
  kinds : List ArgumentKind
  required : Bool := true
  byReference : Bool := false
  shape : Shape := .scalar
  default : Option Cell := none

namespace Parameter

def any : Parameter where
  kinds := [.any]

/-- A range, for which a block may stand. -/
def rangeOrArray : Parameter where
  kinds := [.range]
  byReference := true
  shape := .array

end Parameter

inductive Capability where
  /-- The same answer to the same arguments. -/
  | pure
  /-- The answer may change while the arguments do not. -/
  | volatile
  /-- Reduces a range to one value. -/
  | reduction
  | elementwise
  /-- Finds one record. -/
  | lookup
  /-- Reads numbers. -/
  | numericOnly
  deriving DecidableEq, Repr

namespace Capability

def name : Capability → String
  | pure => "PURE"
  | volatile => "VOLATILE"
  | reduction => "REDUCTION"
  | elementwise => "ELEMENTWISE"
  | lookup => "LOOKUP"
  | numericOnly => "NUMERIC_ONLY"

def bit : Capability → Nat
  | pure => 0x1
  | volatile => 0x2
  | reduction => 0x4
  | elementwise => 0x8
  | lookup => 0x20
  | numericOnly => 0x40

/-- All capabilities, by name. -/
def all : List Capability := [elementwise, lookup, numericOnly, pure, reduction, volatile]

def ofName? (s : String) : Option Capability := all.find? fun c ↦ c.name == s

theorem mem_all (c : Capability) : c ∈ all := by cases c <;> decide

end Capability

structure Signature where
  name : String
  namespaceName : String := ""
  minArguments : Nat := 0
  /-- No bound means any number of arguments. -/
  maxArguments : Option Nat := none
  capabilities : List Capability := [.pure]
  parameters : List Parameter := []

namespace Signature

def variadic (s : Signature) : Bool := s.maxArguments.isNone

def volatile (s : Signature) : Bool := s.capabilities.contains .volatile

/-- The capabilities in order of name, each once. -/
def capabilitySet (s : Signature) : List Capability :=
  Capability.all.filter s.capabilities.contains

def capabilityBits (s : Signature) : Nat := (s.capabilitySet.map Capability.bit).foldr (· + ·) 0

/-- The positions where a block may arrive. -/
def arrayPositions (s : Signature) : List Nat :=
  s.parameters.zipIdx.filterMap fun (p, i) ↦ if p.shape = .array then some i else none

/-- The name with the kinds of its arguments: `DSUM(range, any, range)`. -/
def text (s : Signature) : String :=
  s.name ++ "(" ++
    ", ".intercalate (s.parameters.map fun p ↦ "|".intercalate (p.kinds.map ArgumentKind.name)) ++
    ")"

def admits (s : Signature) (count : Nat) : Bool :=
  s.minArguments ≤ count && s.maxArguments.all (count ≤ ·)

/-- How many arguments are wanted, in words. -/
def arity (s : Signature) : String :=
  let number n := String.ofList (Decimal.natText n)
  match s.maxArguments with
  | some max =>
    if max = s.minArguments then number max else number s.minArguments ++ "-" ++ number max
  | none => "at least " ++ number s.minArguments

def arityError (s : Signature) (count : Nat) : CellError :=
  ⟨.value, s.name ++ " expects " ++ s.arity ++ " arguments, got " ++
    String.ofList (Decimal.natText count)⟩

end Signature

structure SheetFunction extends Signature where
  eval : Criteria.Matcher → List Argument → Except CellError Cell

namespace SheetFunction

/-- The value of a call: the arguments are counted, and a failure becomes an error value. -/
def call (f : SheetFunction) (m : Criteria.Matcher) (args : List Argument) : Cell :=
  if f.admits args.length then
    match f.eval m args with
    | .ok value => value
    | .error e => .error e
  else .error (f.arityError args.length)

theorem call_of_not_admits (f : SheetFunction) (m : Criteria.Matcher) (args : List Argument)
    (h : f.admits args.length = false) : f.call m args = .error (f.arityError args.length) := by
  simp [call, h]

end SheetFunction

end Worksheet
