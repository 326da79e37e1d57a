/-!
Comparison operators of a criteria text. A text begins with the longest operator that it can:
`<=1` compares with `1`, and does not compare with `=1`.
-/

set_option autoImplicit false
set_option relaxedAutoImplicit false

namespace Worksheet.Criteria

inductive Operator where
  | bare
  | eq
  | ne
  | lt
  | le
  | gt
  | ge
  deriving DecidableEq, Repr

namespace Operator

/-- The characters of an operator; a bare criteria text has none. -/
def chars : Operator → List Char
  | bare => []
  | eq => ['=']
  | ne => ['<', '>']
  | lt => ['<']
  | le => ['<', '=']
  | gt => ['>']
  | ge => ['>', '=']

def text (op : Operator) : String := String.ofList op.chars

/-- The operator that a text begins with, and what follows it. -/
def splitChars : List Char → Operator × List Char
  | '<' :: '=' :: rest => (le, rest)
  | '>' :: '=' :: rest => (ge, rest)
  | '<' :: '>' :: rest => (ne, rest)
  | '=' :: rest => (eq, rest)
  | '<' :: rest => (lt, rest)
  | '>' :: rest => (gt, rest)
  | rest => (bare, rest)

def split (s : String) : Operator × String :=
  let (op, rest) := splitChars s.toList
  (op, String.ofList rest)

/-- Whether a value that compares so with the operand satisfies the operator. -/
def accepts (op : Operator) (o : Ordering) : Bool :=
  match op with
  | lt => o == .lt
  | le => o != .gt
  | gt => o == .gt
  | ge => o != .lt
  | bare | eq => o == .eq
  | ne => o != .eq

theorem chars_append_splitChars (cs : List Char) :
    (splitChars cs).1.chars ++ (splitChars cs).2 = cs := by
  unfold splitChars
  split <;> rfl

theorem splitChars_chars (op : Operator) : splitChars op.chars = (op, []) := by
  cases op <;> rfl

end Operator

end Worksheet.Criteria
