import Worksheet.Cell

/-!
Equality of cells and the bytes by which a cell is hashed. Doubles are equal as numbers, so NaN
differs from itself and the zeros are equal; they are hashed by their bits. The bytes carry no mark
for the kind of the cell.
-/

set_option autoImplicit false
set_option relaxedAutoImplicit false

namespace Worksheet

namespace Cell

mutual

/-- Equal cells are of one kind: an integer never equals a double. -/
def beq : Cell → Cell → Bool
  | int i, int j => i == j
  | number x, number y => x == y
  | text s, text t => s == t
  | boolean a, boolean b => a == b
  | array rows, array rows' => beqRows rows rows'
  | empty, empty => true
  | error e, error e' => e == e'
  | _, _ => false

def beqRow : List Cell → List Cell → Bool
  | [], [] => true
  | c :: cs, c' :: cs' => c.beq c' && beqRow cs cs'
  | _, _ => false

def beqRows : List (List Cell) → List (List Cell) → Bool
  | [], [] => true
  | row :: rows, row' :: rows' => beqRow row row' && beqRows rows rows'
  | _, _ => false

end

instance : BEq Cell := ⟨beq⟩

end Cell

/-- Eight bytes, the lowest first. -/
def wordBytes (w : UInt64) : List UInt8 :=
  (List.range 8).map fun i ↦ (w >>> (8 * i).toUInt64).toUInt8

/-- The bytes of the text in UTF-8, closed by a byte that no text holds. -/
def textBytes (s : String) : List UInt8 := s.toUTF8.data.toList ++ [0xff]

def CellError.hashBytes (e : CellError) : List UInt8 :=
  wordBytes e.kind.index.toUInt64 ++
    match e.message with
    | none => wordBytes 0
    | some message => wordBytes 1 ++ textBytes message

namespace Cell

mutual

def hashBytes : Cell → List UInt8
  | int i => wordBytes i.toUInt64
  | number x => wordBytes x.toBits
  | text s => textBytes s
  | boolean b => [if b then 1 else 0]
  | array rows => wordBytes rows.length.toUInt64 ++ hashRows rows
  | empty => [0]
  | error e => e.hashBytes

def hashRow : List Cell → List UInt8
  | [] => []
  | c :: cs => c.hashBytes ++ hashRow cs

def hashRows : List (List Cell) → List UInt8
  | [] => []
  | row :: rows => wordBytes row.length.toUInt64 ++ hashRow row ++ hashRows rows

end

theorem hashRow_eq_flatMap (cs : List Cell) : hashRow cs = cs.flatMap hashBytes := by
  induction cs with
  | nil => simp [hashRow]
  | cons c cs ih => simp [hashRow, ih]

theorem hashRows_eq_flatMap (rows : List (List Cell)) :
    hashRows rows =
      rows.flatMap fun row ↦ wordBytes row.length.toUInt64 ++ row.flatMap hashBytes := by
  induction rows with
  | nil => simp [hashRows]
  | cons row rows ih => simp [hashRows, ih, hashRow_eq_flatMap]

end Cell

end Worksheet
