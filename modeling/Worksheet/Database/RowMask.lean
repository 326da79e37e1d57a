/-!
Selections of rows, one flag a row. Combining with a mask of another length leaves the rows beyond
the shorter one as they are.
-/

set_option autoImplicit false
set_option relaxedAutoImplicit false

namespace Worksheet.Database

structure RowMask where
  flags : List Bool
  deriving DecidableEq, Repr

namespace RowMask

def all (rows : Nat) : RowMask := ⟨List.replicate rows true⟩

def none (rows : Nat) : RowMask := ⟨List.replicate rows false⟩

def size (m : RowMask) : Nat := m.flags.length

def isEmpty (m : RowMask) : Bool := m.flags.isEmpty

/-- Combine row by row; rows without a partner stay. -/
def combine (f : Bool → Bool → Bool) : List Bool → List Bool → List Bool
  | a :: as, b :: bs => f a b :: combine f as bs
  | as, [] => as
  | [], _ => []

def and (m n : RowMask) : RowMask := ⟨combine (· && ·) m.flags n.flags⟩

def or (m n : RowMask) : RowMask := ⟨combine (· || ·) m.flags n.flags⟩

def count (m : RowMask) : Nat := m.flags.count true

/-- The selected rows in increasing order. -/
def selected (m : RowMask) : List Nat :=
  m.flags.zipIdx.filterMap fun (flag, i) ↦ if flag then some i else Option.none

/-- The items of a column on the selected rows. -/
def pick {α : Type} (m : RowMask) (column : List α) : List α :=
  (column.zip m.flags).filterMap fun (x, flag) ↦ if flag then some x else Option.none

@[simp] theorem length_combine (f : Bool → Bool → Bool) (as bs : List Bool) :
    (combine f as bs).length = as.length := by
  induction as generalizing bs with
  | nil => cases bs <;> rfl
  | cons a as ih =>
    cases bs with
    | nil => rfl
    | cons b bs => simp [combine, ih]

@[simp] theorem size_and (m n : RowMask) : (m.and n).size = m.size := length_combine _ _ _

@[simp] theorem size_or (m n : RowMask) : (m.or n).size = m.size := length_combine _ _ _

@[simp] theorem size_all (rows : Nat) : (all rows).size = rows := by simp [size, all]

@[simp] theorem size_none (rows : Nat) : (none rows).size = rows := by simp [size, none]

end RowMask

end Worksheet.Database
