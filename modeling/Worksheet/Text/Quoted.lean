import Worksheet.Text.Printable

/-!
Quoted listing of a text: the text between double quotes, with an escape for the quote, the
backslash, NUL, tab, line feed and carriage return, and a code point in braces for every other
character that is not printable. An apostrophe stands as it is.
-/

set_option autoImplicit false
set_option relaxedAutoImplicit false

namespace Worksheet.Text

namespace Quoted

/-- `\u` and the code point in braces, in lower-case hexadecimal without leading zeros. -/
def codePoint (c : Char) : List Char :=
  ['\\', 'u', '\x7b'] ++ Nat.toDigits 16 c.toNat ++ ['\x7d']

def escape (c : Char) : List Char :=
  match c with
  | '\x00' => ['\\', '0']
  | '\t' => ['\\', 't']
  | '\r' => ['\\', 'r']
  | '\n' => ['\\', 'n']
  | '"' => ['\\', '"']
  | '\\' => ['\\', '\\']
  | c => if isPrintable c then [c] else codePoint c

end Quoted

def quoted (s : String) : String :=
  String.ofList ('"' :: s.toList.flatMap Quoted.escape ++ ['"'])

@[simp] theorem toList_quoted (s : String) :
    (quoted s).toList = '"' :: s.toList.flatMap Quoted.escape ++ ['"'] := by
  simp [quoted]

end Worksheet.Text
