import Mathlib.Order.Lattice
import Worksheet.Block

/-!
Blocks as tables of cells.

The width of a block is the length of its longest row. Two blocks with the same height, width and
cells are read alike (`SameCells`). It does not matter who owns the rows (`sameCells_of_rows_eq`),
and a block reads like its rows filled up to a rectangle (`sameCells_toRows`). In the place of one
cell, a block amounts to a cell (`AmountsTo`) or has room for more than one (`HoldsMany`).
-/

set_option autoImplicit false
set_option relaxedAutoImplicit false

namespace Worksheet

/-! ### The longest row -/

theorem width_cons (row : List Cell) (rows : List (List Cell)) :
    width (row :: rows) = max row.length (width rows) := rfl

theorem width_le_iff (rows : List (List Cell)) (n : Nat) :
    width rows ≤ n ↔ ∀ row ∈ rows, row.length ≤ n := by
  induction rows with
  | nil => simp [width]
  | cons row rows ih => rw [width_cons, Nat.max_le, ih, List.forall_mem_cons]

theorem length_le_width {row : List Cell} {rows : List (List Cell)} (h : row ∈ rows) :
    row.length ≤ width rows :=
  (width_le_iff rows _).mp le_rfl row h

theorem exists_length_eq_width {rows : List (List Cell)} (h : rows ≠ []) :
    ∃ row ∈ rows, row.length = width rows := by
  induction rows with
  | nil => exact absurd rfl h
  | cons row rows ih =>
    rw [width_cons]
    rcases le_total (width rows) row.length with hle | hle
    · exact ⟨row, List.mem_cons_self, (max_eq_left hle).symm⟩
    · by_cases hnil : rows = []
      · subst hnil
        exact ⟨row, List.mem_cons_self, (max_eq_left (Nat.zero_le _)).symm⟩
      · obtain ⟨longest, hmem, hlength⟩ := ih hnil
        exact ⟨longest, List.mem_cons_of_mem _ hmem, hlength.trans (max_eq_right hle).symm⟩

namespace Block

theorem cell_of_width_le (b : Block) (row column : Nat) (h : b.width ≤ column) :
    b.cell row column = .empty := by
  unfold cell
  cases hrow : b.rows[row]? with
  | none => rfl
  | some cells =>
    have hlength : cells.length ≤ column :=
      (length_le_width (List.mem_of_getElem? hrow)).trans (b.width_eq_width ▸ h)
    rw [Option.bind_some, List.getElem?_eq_none hlength, Option.getD_none]

/-! ### Blocks that read alike -/

structure SameCells (b c : Block) : Prop where
  height : b.height = c.height
  width : b.width = c.width
  cell : ∀ row column, b.cell row column = c.cell row column

theorem SameCells.refl (b : Block) : SameCells b b := ⟨rfl, rfl, fun _ _ ↦ rfl⟩

theorem SameCells.symm {b c : Block} (h : SameCells b c) : SameCells c b :=
  ⟨h.height.symm, h.width.symm, fun row column ↦ (h.cell row column).symm⟩

theorem SameCells.trans {b c d : Block} (h : SameCells b c) (h' : SameCells c d) :
    SameCells b d :=
  ⟨h.height.trans h'.height, h.width.trans h'.width,
    fun row column ↦ (h.cell row column).trans (h'.cell row column)⟩

/-- The measures of a block are those of its rows, so the rows say all there is to read. -/
theorem sameCells_of_rows_eq {b c : Block} (h : b.rows = c.rows) : SameCells b c where
  height := by rw [b.height_eq_length, c.height_eq_length, h]
  width := by rw [b.width_eq_width, c.width_eq_width, h]
  cell row column := by rw [Block.cell, Block.cell, h]

theorem view_congr {b c : Block} (h : b.rows = c.rows) : b.view = c.view := by
  obtain ⟨backing, _, _, rfl, rfl⟩ := b
  obtain ⟨backing', _, _, rfl, rfl⟩ := c
  change borrowed backing.rows = borrowed backing'.rows
  exact congrArg borrowed h

theorem SameCells.only? {b c : Block} (h : SameCells b c) : b.only? = c.only? := by
  rw [Block.only?, Block.only?, h.height, h.width, h.cell]

theorem SameCells.toRows {b c : Block} (h : SameCells b c) : b.toRows = c.toRows := by
  have hrow : b.row = c.row := by
    funext row
    rw [Block.row, Block.row, h.width, funext (h.cell row)]
  rw [Block.toRows, Block.toRows, h.height, hrow]

theorem rows_eq_nil {b : Block} (h : b.height = 0) : b.rows = [] :=
  List.eq_nil_of_length_eq_zero (b.height_eq_length ▸ h)

theorem width_eq_zero_of_height (b : Block) (h : b.height = 0) : b.width = 0 := by
  rw [b.width_eq_width, rows_eq_nil h]
  rfl

theorem width_toRows (b : Block) : Worksheet.width b.toRows = b.width := by
  by_cases hheight : b.height = 0
  · rw [b.width_eq_zero_of_height hheight, Block.toRows, hheight]
    rfl
  · have hlength : ∀ row ∈ b.toRows, row.length = b.width := by
      intro row hrow
      obtain ⟨r, -, rfl⟩ := List.mem_map.mp hrow
      exact b.length_row r
    have hne : b.toRows ≠ [] := by
      intro hnil
      exact hheight (by rw [← b.length_toRows, hnil, List.length_nil])
    obtain ⟨row, hrow, heq⟩ := Worksheet.exists_length_eq_width hne
    rw [← heq, hlength row hrow]

theorem cell_toRows (b : Block) (row column : Nat) :
    (borrowed b.toRows).cell row column = b.cell row column := by
  by_cases hrow : row < b.height
  · have hget : b.toRows[row]? = some (b.row row) := by
      simp [Block.toRows, List.getElem?_range hrow]
    by_cases hcolumn : column < b.width
    · have hcell : (b.row row)[column]? = some (b.cell row column) := by
        simp [Block.row, List.getElem?_range hcolumn]
      rw [Block.cell, rows_borrowed, hget, Option.bind_some, hcell, Option.getD_some]
    · have hle : b.width ≤ column := Nat.le_of_not_lt hcolumn
      rw [b.cell_of_width_le row column hle, cell_of_width_le]
      exact (width_toRows b).trans_le hle
  · have hle : b.height ≤ row := Nat.le_of_not_lt hrow
    rw [b.cell_of_height_le row column hle, cell_of_height_le]
    exact b.length_toRows.trans_le hle

/-- Filling the rows up to a rectangle changes no cell. -/
theorem sameCells_toRows (b : Block) : SameCells (borrowed b.toRows) b :=
  ⟨b.length_toRows, b.width_toRows, b.cell_toRows⟩

/-! ### A block in the place of one cell -/

private theorem exists_rows_eq_singleton {b : Block} (hheight : b.height = 1)
    (hwidth : b.width = 1) : ∃ c, b.rows = [[c]] := by
  obtain ⟨row, hrows⟩ := List.length_eq_one_iff.mp (b.height_eq_length ▸ hheight)
  have hlength : row.length = 1 := by
    rw [← hwidth, b.width_eq_width, hrows, width_cons]
    exact (max_eq_left (Nat.zero_le _)).symm
  obtain ⟨c, hrow⟩ := List.length_eq_one_iff.mp hlength
  exact ⟨c, by rw [hrows, hrow]⟩

theorem only?_of_rows {b : Block} {c : Cell} (h : b.rows = [[c]]) : b.only? = some c := by
  have hone : b.height = 1 ∧ b.width = 1 := by
    rw [b.height_eq_length, b.width_eq_width, h]
    exact ⟨rfl, rfl⟩
  rw [Block.only?, if_pos hone, Block.cell, h]
  rfl

/-- What a block says in the place of one cell can be read off its height, width and cells. -/
theorem single_array (b : Block) :
    (Cell.array b.rows).single =
      if b.height = 1 ∧ b.width = 1 then .ok (b.cell 0 0)
      else if b.width = 0 then .ok .empty else .error ⟨b.height, b.width⟩ := by
  by_cases hone : b.height = 1 ∧ b.width = 1
  · obtain ⟨c, hrows⟩ := exists_rows_eq_singleton hone.1 hone.2
    rw [if_pos hone, hrows]
    simp [Cell.single, Block.cell, hrows]
  · have hmany : ∀ c, b.rows ≠ [[c]] := by
      intro c hrows
      exact hone (by simp [b.height_eq_length, b.width_eq_width, hrows, Worksheet.width])
    have hblank : b.rows.all List.isEmpty = true ↔ b.width = 0 := by
      rw [← Nat.le_zero, b.width_eq_width, width_le_iff]
      simp
    rw [if_neg hone]
    unfold Cell.single
    split
    · next c heq => exact absurd (Cell.array.inj heq) (hmany c)
    · next rows _ heq =>
      rw [← Cell.array.inj heq, b.height_eq_length]
      simp only [hblank, b.width_eq_width]
    · next hother => exact absurd rfl (hother b.rows)

theorem SameCells.single {b c : Block} (h : SameCells b c) :
    (Cell.array b.rows).single = (Cell.array c.rows).single := by
  rw [single_array, single_array, h.height, h.width, h.cell]

theorem single_toRows (b : Block) :
    (Cell.array b.toRows).single = (Cell.array b.rows).single :=
  b.sameCells_toRows.single

end Block

namespace Cell

/-- What a cell amounts to where one cell is wanted: a block of one row and one column amounts to
its cell, and a block of no column to a blank. -/
inductive AmountsTo : Cell → Cell → Prop where
  | itself (c : Cell) (hc : ∀ rows, c ≠ .array rows) : AmountsTo c c
  | oneCell (c : Cell) : AmountsTo (.array [[c]]) c
  | noCells (rows : List (List Cell)) (hwidth : Worksheet.width rows = 0) :
      AmountsTo (.array rows) .empty

/-- A block of these measures, with room for more than one cell. -/
def HoldsMany (c : Cell) (n : NotSingle) : Prop :=
  ∃ rows, c = .array rows ∧ n = ⟨rows.length, Worksheet.width rows⟩ ∧
    1 < rows.length * Worksheet.width rows

theorem single_of_ne_array {c : Cell} (h : ∀ rows, c ≠ .array rows) : c.single = .ok c := by
  unfold single
  split
  · next inner => exact absurd rfl (h [[inner]])
  · next rows _ => exact absurd rfl (h rows)
  · rfl

theorem AmountsTo.single_eq {field c : Cell} (h : field.AmountsTo c) : field.single = .ok c := by
  cases h with
  | itself c hc => exact single_of_ne_array hc
  | oneCell c => rfl
  | noCells rows hwidth =>
    have hone : ¬ (rows.length = 1 ∧ Worksheet.width rows = 1) := by omega
    exact (Block.borrowed rows).single_array.trans ((if_neg hone).trans (if_pos hwidth))

theorem HoldsMany.single_eq {field : Cell} {n : NotSingle} (h : field.HoldsMany n) :
    field.single = .error n := by
  obtain ⟨rows, rfl, rfl, hmany⟩ := h
  have hone : ¬ (rows.length = 1 ∧ Worksheet.width rows = 1) := by
    intro hone
    rw [hone.1, hone.2] at hmany
    omega
  have hwidth : Worksheet.width rows ≠ 0 := by
    intro hwidth
    rw [hwidth] at hmany
    omega
  exact (Block.borrowed rows).single_array.trans ((if_neg hone).trans (if_neg hwidth))

theorem amountsTo_or_holdsMany (field : Cell) :
    (∃ c, field.AmountsTo c) ∨ ∃ n, field.HoldsMany n := by
  cases field with
  | array rows =>
    by_cases hone : rows.length = 1 ∧ Worksheet.width rows = 1
    · obtain ⟨c, rfl⟩ := Block.exists_rows_eq_singleton (b := .borrowed rows) hone.1 hone.2
      exact Or.inl ⟨c, .oneCell c⟩
    by_cases hwidth : Worksheet.width rows = 0
    · exact Or.inl ⟨.empty, .noCells rows hwidth⟩
    · have hlength : rows.length ≠ 0 := by
        intro hlength
        rw [List.eq_nil_of_length_eq_zero hlength] at hwidth
        exact hwidth rfl
      have hmany : 1 < rows.length * Worksheet.width rows := by
        rcases Nat.lt_or_ge 1 rows.length with hrows | hrows
        · exact hrows.trans_le (Nat.le_mul_of_pos_right _ (Nat.pos_of_ne_zero hwidth))
        · rw [show rows.length = 1 by omega, Nat.one_mul]
          omega
      exact Or.inr ⟨_, rows, rfl, rfl, hmany⟩
  | _ => exact Or.inl ⟨_, .itself _ nofun⟩

theorem AmountsTo.unique {field c d : Cell} (hc : field.AmountsTo c) (hd : field.AmountsTo d) :
    c = d :=
  Except.ok.inj (hc.single_eq.symm.trans hd.single_eq)

theorem HoldsMany.not_amountsTo {field c : Cell} {n : NotSingle} (h : field.HoldsMany n) :
    ¬ field.AmountsTo c := by
  intro hc
  cases h.single_eq.symm.trans hc.single_eq

theorem single_eq_ok_iff (field c : Cell) : field.single = .ok c ↔ field.AmountsTo c := by
  refine ⟨fun hsingle ↦ ?_, AmountsTo.single_eq⟩
  rcases field.amountsTo_or_holdsMany with ⟨other, hother⟩ | ⟨n, hmany⟩
  · rw [hother.single_eq] at hsingle
    cases hsingle
    exact hother
  · rw [hmany.single_eq] at hsingle
    cases hsingle

end Cell

end Worksheet
