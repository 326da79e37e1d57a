import Worksheet.SheetFunction

/-!
Catalogues of functions. A function is kept under a key, its namespace and its name in capitals, so
that it is found in any ASCII case, and no two functions of a catalogue have one key. Functions are
collected in a draft, which is then frozen; a draft that refuses a function stays as it was.
-/

set_option autoImplicit false
set_option relaxedAutoImplicit false

namespace Worksheet

/-- A function that has the place of another one. -/
structure Duplicate where
  namespaceName : String
  name : String
  deriving DecidableEq, Repr

def Duplicate.message (d : Duplicate) : String :=
  "function \x60" ++ d.name ++ "\x60 is already registered in namespace \x60" ++
    d.namespaceName ++ "\x60"

/-- What a function is found by. -/
structure FunctionKey where
  namespaceName : String
  name : String
  deriving DecidableEq, Repr

def FunctionKey.of (namespaceName name : String) : FunctionKey :=
  ⟨Text.asciiUpper namespaceName, Text.asciiUpper name⟩

namespace SheetFunction

def key (f : SheetFunction) : FunctionKey := .of f.namespaceName f.name

def entry (f : SheetFunction) : FunctionKey × SheetFunction := (f.key, f)

def duplicate (f : SheetFunction) : Duplicate := ⟨f.namespaceName, f.name⟩

end SheetFunction

/-- A catalogue under construction, in order of registration. -/
structure Draft where
  entries : List (FunctionKey × SheetFunction) := []

/-- A frozen catalogue. -/
structure Catalogue where
  entries : List (FunctionKey × SheetFunction)

def countedListing (title : String) (count : Nat) : String :=
  title ++ " \x7b functions: " ++ String.ofList (Decimal.natText count) ++ " \x7d"

namespace Draft

/-- Add a function: the draft after the call, and the duplicate that a failed call reports. -/
def register (d : Draft) (f : SheetFunction) : Draft × Option Duplicate :=
  if (d.entries.lookup f.key).isSome then (d, some f.duplicate)
  else (⟨d.entries ++ [f.entry]⟩, none)

/-- Register one after another up to the first duplicate; the functions before it stay. -/
def registerAll (d : Draft) : List SheetFunction → Draft × Option Duplicate
  | [] => (d, none)
  | f :: fs =>
    match d.register f with
    | (d', none) => d'.registerAll fs
    | (d', some duplicate) => (d', some duplicate)

def freeze (d : Draft) : Catalogue := ⟨d.entries⟩

def describe (d : Draft) : String := countedListing "FunctionRegistryBuilder" d.entries.length

end Draft

namespace Catalogue

def find? (c : Catalogue) (namespaceName name : String) : Option SheetFunction :=
  c.entries.lookup (.of namespaceName name)

def contains (c : Catalogue) (namespaceName name : String) : Bool :=
  (c.find? namespaceName name).isSome

def size (c : Catalogue) : Nat := c.entries.length

def isEmpty (c : Catalogue) : Bool := c.entries.isEmpty

/-- The names in order of code points, one for each function. -/
def names (c : Catalogue) : List String :=
  (c.entries.map (·.2.name)).mergeSort fun s t ↦ decide (s ≤ t)

def signature? (c : Catalogue) (namespaceName name : String) : Option String :=
  (c.find? namespaceName name).map (·.text)

def describe (c : Catalogue) : String := countedListing "FunctionRegistry" c.size

end Catalogue

end Worksheet
