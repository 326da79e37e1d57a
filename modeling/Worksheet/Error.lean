import Worksheet.Text.Ascii
import Worksheet.Text.Blank

/-!
Error values of a worksheet. A kind is written as its code (`#DIV/0!`); an error is a kind with an
optional message, and is written as the code, followed by the message after a colon.

`ErrorKind.parse?` accepts a code in any ASCII case, with blanks around it.
-/

set_option autoImplicit false
set_option relaxedAutoImplicit false

namespace Worksheet

inductive ErrorKind where
  | null
  | reference
  | name
  | value
  | division
  | notAvailable
  | number
  | error
  | notImplemented
  | spill
  | calculation
  | circular
  | cancelled
  deriving DecidableEq, Repr

namespace ErrorKind

/-- All kinds, in their order. -/
def all : List ErrorKind :=
  [null, reference, name, value, division, notAvailable, number, error, notImplemented, spill,
    calculation, circular, cancelled]

/-- The code a reader sees in the cell. -/
def code : ErrorKind → String
  | null => "#NULL!"
  | reference => "#REF!"
  | name => "#NAME?"
  | value => "#VALUE!"
  | division => "#DIV/0!"
  | notAvailable => "#N/A"
  | number => "#NUM!"
  | error => "#ERROR!"
  | notImplemented => "#N/IMPL!"
  | spill => "#SPILL!"
  | calculation => "#CALC!"
  | circular => "#CIRC!"
  | cancelled => "#CANCELLED!"

/-- The name under which a kind is stored and listed. -/
def label : ErrorKind → String
  | null => "Null"
  | reference => "Ref"
  | name => "Name"
  | value => "Value"
  | division => "Div"
  | notAvailable => "Na"
  | number => "Num"
  | error => "Error"
  | notImplemented => "NImpl"
  | spill => "Spill"
  | calculation => "Calc"
  | circular => "Circ"
  | cancelled => "Cancelled"

/-- The place of a kind in `all`. -/
def index (k : ErrorKind) : Nat := all.idxOf k

/-- The codes as they are read, in lower case. -/
def lowerCodes : List (String × ErrorKind) :=
  [("#null!", null), ("#ref!", reference), ("#name?", name), ("#value!", value),
    ("#div/0!", division), ("#n/a", notAvailable), ("#num!", number), ("#error!", error),
    ("#n/impl!", notImplemented), ("#spill!", spill), ("#calc!", calculation),
    ("#circ!", circular), ("#cancelled!", cancelled)]

/-- A code in any ASCII case, with blanks around it. -/
def parse? (s : String) : Option ErrorKind :=
  lowerCodes.lookup (Text.asciiLower (Text.trimmed s))

def ofLabel? (s : String) : Option ErrorKind := all.find? fun k ↦ s == k.label

theorem mem_all (k : ErrorKind) : k ∈ all := by cases k <;> decide

theorem all_nodup : all.Nodup := by decide

theorem ofLabel?_label (k : ErrorKind) : ofLabel? k.label = some k := by
  cases k <;> decide +kernel

end ErrorKind

structure CellError where
  kind : ErrorKind
  message : Option String := none
  deriving DecidableEq, Repr

namespace CellError

def text (e : CellError) : String :=
  match e.message with
  | none => e.kind.code
  | some message => e.kind.code ++ ": " ++ message

/-- An error answers to the code of its kind, whatever its message. -/
def hasCode (e : CellError) (s : String) : Bool := e.kind.code == s

def parse? (s : String) : Option CellError := (ErrorKind.parse? s).map fun kind ↦ ⟨kind, none⟩

end CellError

end Worksheet
