import Worksheet.Json.Literal

/-!
JSON values and their compact text. Numbers are kept as they are written. The members of an object
are kept in order, repeated keys included.
-/

set_option autoImplicit false
set_option relaxedAutoImplicit false

namespace Worksheet

inductive Json where
  | null
  | bool (b : Bool)
  | number (lexeme : List Char)
  /-- A string; none where a half of a surrogate pair stands alone, so that it denotes no text. -/
  | string (s : Option String)
  | array (items : List Json)
  | object (members : List (Option String × Json))

namespace Json

def text (s : String) : Json := string (some s)

/-- A text, or a string that denotes none. -/
def renderString : Option String → List Char
  | some s => Literal.write s
  | none => "\"\\ud800\"".toList

def commaSeparated (items : List (List Char)) : List Char := [','].intercalate items

mutual

def render : Json → List Char
  | null => "null".toList
  | bool b => (if b then "true" else "false").toList
  | number lexeme => lexeme
  | string s => renderString s
  | array items => '[' :: commaSeparated (renderItems items) ++ [']']
  | object members => '\x7b' :: commaSeparated (renderMembers members) ++ ['\x7d']

def renderItems : List Json → List (List Char)
  | [] => []
  | j :: js => j.render :: renderItems js

def renderMembers : List (Option String × Json) → List (List Char)
  | [] => []
  | (key, j) :: members => (renderString key ++ ':' :: j.render) :: renderMembers members

end

@[simp] theorem renderItems_eq_map (js : List Json) : renderItems js = js.map render := by
  induction js with
  | nil => simp [renderItems]
  | cons j js ih => simp [renderItems, ih]

end Json

end Worksheet
