import Worksheet.Text.Lowercase.Mapping
import Worksheet.Text.Lowercase.Context

/-!
Full lowercase of a text. Every character is mapped on its own, with two exceptions: a dotted
capital I becomes two characters, and a capital sigma that ends a word becomes the final sigma.
-/

set_option autoImplicit false
set_option relaxedAutoImplicit false

namespace Worksheet.Text

namespace Lowercase

def capitalSigma : Char := '\u03A3'
def smallSigma : Char := '\u03C3'
def finalSigma : Char := '\u03C2'
def dottedCapitalI : Char := '\u0130'
def dotAbove : Char := '\u0307'

/-- The nearest character that is not ignorable is a cased letter. -/
def meetsCased (cs : List Char) : Bool :=
  ((cs.dropWhile isIgnorable).head?.map isCased).getD false

/-- A sigma ends a word when a letter stands before it and none after it. -/
def endsWord (before after : List Char) : Bool :=
  meetsCased before && !meetsCased after

/-- The lowercase image of a character wherever it stands. -/
def letter (c : Char) : List Char :=
  if c.toNat < 0x80 then [c.toLower]
  else if c = dottedCapitalI then ['i', dotAbove]
  else [(image? c).getD c]

/-- `before` holds the characters already passed, the last one first. -/
def chars (before : List Char) : List Char → List Char
  | [] => []
  | c :: after =>
    (if c = capitalSigma then [if endsWord before after then finalSigma else smallSigma]
      else letter c) ++ chars (c :: before) after

end Lowercase

def lowercase (s : String) : String := String.ofList (Lowercase.chars [] s.toList)

@[simp] theorem toList_lowercase (s : String) :
    (lowercase s).toList = Lowercase.chars [] s.toList := by
  simp [lowercase]

end Worksheet.Text
