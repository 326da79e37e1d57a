import Worksheet.Json.Basic
import Worksheet.Json.Lexer

/-!
Reading a JSON value from its tokens, one token at a time. The state holds the containers that are
still open, the innermost first, and says what may come next; a token that may not come ends the
reading. A text is a value when its last token completes it.
-/

set_option autoImplicit false
set_option relaxedAutoImplicit false

namespace Worksheet.Json

/-- An open container that waits for a value; what it holds already is in reverse. -/
inductive Frame where
  | items (done : List Json)
  | members (done : List (Option String × Json)) (key : Option String)

inductive State where
  | value (outer : List Frame)
  | firstItem (outer : List Frame)
  | afterItem (outer : List Frame) (done : List Json)
  | firstKey (outer : List Frame)
  | nextKey (outer : List Frame) (done : List (Option String × Json))
  | colon (outer : List Frame) (done : List (Option String × Json)) (key : Option String)
  | afterMember (outer : List Frame) (done : List (Option String × Json))
  | finished (j : Json)

namespace State

/-- A value is complete. -/
def plug : List Frame → Json → State
  | [], j => finished j
  | .items done :: outer, j => afterItem outer (j :: done)
  | .members done key :: outer, j => afterMember outer ((key, j) :: done)

/-- The first token of a value. -/
def beginValue (outer : List Frame) : Token → Option State
  | .openArray => some (firstItem outer)
  | .openObject => some (firstKey outer)
  | .null => some (plug outer .null)
  | .bool b => some (plug outer (.bool b))
  | .number lexeme => some (plug outer (.number lexeme))
  | .string s => some (plug outer (.string s))
  | _ => none

def step : State → Token → Option State
  | value outer, t => beginValue outer t
  | firstItem outer, .closeArray => some (plug outer (.array []))
  | firstItem outer, t => beginValue (.items [] :: outer) t
  | afterItem outer done, .comma => some (value (.items done :: outer))
  | afterItem outer done, .closeArray => some (plug outer (.array done.reverse))
  | firstKey outer, .closeObject => some (plug outer (.object []))
  | firstKey outer, .string s => some (colon outer [] s)
  | nextKey outer done, .string s => some (colon outer done s)
  | colon outer done key, .colon => some (value (.members done key :: outer))
  | afterMember outer done, .comma => some (nextKey outer done)
  | afterMember outer done, .closeObject => some (plug outer (.object done.reverse))
  | _, _ => none

end State

def ofTokens (ts : List Token) : Option Json :=
  match ts.foldlM State.step (.value []) with
  | some (.finished j) => some j
  | _ => none

/-- The value that a text is. -/
def parse (s : String) : Option Json := (lex s.toList).bind ofTokens

end Worksheet.Json
