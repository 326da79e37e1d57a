import Worksheet.Block

/-!
Arguments of a function: a value, or a range of cells. Either can be read as a block and as a
value; a range of one cell is that cell.
-/

set_option autoImplicit false
set_option relaxedAutoImplicit false

namespace Worksheet

inductive Argument where
  | scalar (value : Cell)
  | range (block : Block)

namespace Argument

/-- The error that the argument is; a range that holds an error is none. -/
def error? : Argument → Option CellError
  | scalar value => value.error?
  | range _ => none

def block : Argument → Block
  | scalar value => Block.ofCell value
  | range block => block.view

def value : Argument → Cell
  | scalar value => value
  | range block => block.only?.getD (.array block.toRows)

end Argument

end Worksheet
