import Mathlib.Data.Nat.Find
import Worksheet.Proofs.Block
import Worksheet.Proofs.Database.Columns

/-!
The index of a database, field by field.

`Coalesces` says of an index what it owes to its block: the width, the places of the headers, the
headers that are found, and for each record under a header the first cell that is not blank
(`FirstFilled`). It speaks of the cells of the block alone. `coalesces_ofDatabase` shows that the
index that is built column by column owes nothing more, whatever headers are repeated and however
ragged the rows are.
-/

set_option autoImplicit false
set_option relaxedAutoImplicit false

namespace Worksheet.Database

open HeaderIndex

/-- The first cell of a record that is not blank under a header, from left to right; empty when
all of them are blank. -/
inductive FirstFilled (b : Block) (header : String) (record : Nat) : Cell → Prop where
  | filled (column : Nat) (hwidth : column < b.width) (hheader : headerText b column = header)
      (hfilled : b.cell (record + 1) column ≠ .empty)
      (hfirst : ∀ earlier < column, headerText b earlier = header →
        b.cell (record + 1) earlier = .empty) :
      FirstFilled b header record (b.cell (record + 1) column)
  | blank (hblank : ∀ column < b.width, headerText b column = header →
        b.cell (record + 1) column = .empty) :
      FirstFilled b header record .empty

/-- The column has the header, and no column before it has. -/
def IsFirstColumn (b : Block) (column : Nat) (header : String) : Prop :=
  column < b.width ∧ headerText b column = header ∧
    ∀ earlier < column, headerText b earlier ≠ header

/-- What the index of a database owes to its block. -/
structure Coalesces (b : Block) (i : HeaderIndex) : Prop where
  length_le_width : ∀ row ∈ b.rows, row.length ≤ i.width
  exists_length_eq_width : b.rows ≠ [] → ∃ row ∈ b.rows, row.length = i.width
  width_of_no_rows : b.rows = [] → i.width = 0
  records : i.records = b.rows.length - 1
  length_of_mem_columns : ∀ entry ∈ i.columns, entry.2.length = i.records
  headerAt_iff : ∀ column header,
    i.headerAt? column = some header ↔ IsFirstColumn b column header
  contains_iff : ∀ header, i.contains header = true ↔ ∃ column, i.headerAt? column = some header
  column_iff : ∀ header,
    (i.column? header).isSome = true ↔ ∃ column, i.headerAt? column = some header
  key_iff : ∀ header key,
    i.key? header = some key ↔ key = header ∧ ∃ column, i.headerAt? column = some header
  length_column : ∀ header cells, i.column? header = some cells → cells.length = i.records
  entry : ∀ header cells, i.column? header = some cells → ∀ record value,
    cells[record]? = some value → FirstFilled b header record value

/-! ### The places of the headers -/

theorem not_mem_map_range_iff (b : Block) (column : Nat) (header : String) :
    header ∉ (List.range column).map (headerText b) ↔
      ∀ earlier < column, headerText b earlier ≠ header := by simp

theorem headerAt?_ofDatabase_eq_some_iff (b : Block) (column : Nat) (header : String) :
    (ofDatabase b).headerAt? column = some header ↔ IsFirstColumn b column header := by
  rw [headerAt?_ofDatabase]
  constructor
  · intro h
    split at h
    · next hfirst =>
      cases h
      exact ⟨hfirst.1, rfl, (not_mem_map_range_iff b column _).mp hfirst.2⟩
    · cases h
  · rintro ⟨hwidth, rfl, hfirst⟩
    exact if_pos ⟨hwidth, (not_mem_map_range_iff b column _).mpr hfirst⟩

/-- Every header has a first column. -/
theorem mem_headers_iff_exists_first (b : Block) (header : String) :
    header ∈ headers b ↔ ∃ column, IsFirstColumn b column header := by
  rw [mem_headers_iff]
  constructor
  · intro h
    have hfirst := Nat.find_spec h
    refine ⟨Nat.find h, hfirst.1, hfirst.2, fun earlier hearlier heq ↦ ?_⟩
    exact Nat.find_min h hearlier ⟨hearlier.trans hfirst.1, heq⟩
  · rintro ⟨column, hwidth, hheader, -⟩
    exact ⟨column, hwidth, hheader⟩

theorem mem_headers_iff_exists_headerAt? (b : Block) (header : String) :
    header ∈ headers b ↔ ∃ column, (ofDatabase b).headerAt? column = some header := by
  simp only [headerAt?_ofDatabase_eq_some_iff, mem_headers_iff_exists_first]

/-! ### Look-ups -/

theorem isSome_column?_ofDatabase (b : Block) (header : String) :
    ((ofDatabase b).column? header).isSome = true ↔ header ∈ headers b := by
  rw [column?_ofDatabase]
  by_cases h : header ∈ headers b <;> simp [h]

/-- A key is found with the column that it heads, and it is the header itself. -/
theorem key?_eq (i : HeaderIndex) (header : String) :
    i.key? header = if i.contains header then some header else none := by
  have hlookup : (i.columns.lookup header).isSome =
      (i.columns.find? fun entry ↦ header == entry.1).isSome := by
    rw [Bool.eq_iff_iff, List.lookup_isSome_iff, List.find?_isSome]
  unfold key? contains column?
  rw [hlookup]
  cases hfind : i.columns.find? fun entry ↦ header == entry.1 with
  | none => rfl
  | some entry =>
    have hkey : header = entry.1 := by simpa using List.find?_some hfind
    simp [hkey]

theorem length_backfill (cells others : List Cell) (h : cells.length = others.length) :
    (backfill cells others).length = cells.length := by
  rw [backfill, List.length_zipWith, h, Nat.min_self]

/-- Adding a column keeps the columns at one length. -/
theorem length_of_mem_columns_addColumn {i : HeaderIndex} {header : String} {cells : List Cell}
    {n : Nat} (hold : ∀ entry ∈ i.columns, entry.2.length = n) (hnew : cells.length = n) :
    ∀ entry ∈ (i.addColumn header cells).columns, entry.2.length = n := by
  intro entry hentry
  unfold addColumn at hentry
  split at hentry
  · obtain ⟨⟨key, old⟩, hmem, rfl⟩ := List.mem_map.mp hentry
    have hlength : old.length = n := hold _ hmem
    by_cases hkey : header = key
    · have hfill : (backfill old cells).length = n :=
        (length_backfill old cells (hlength.trans hnew.symm)).trans hlength
      simpa [hkey] using hfill
    · simpa [hkey] using hlength
  · rcases List.mem_append.mp hentry with hmem | hmem
    · exact hold entry hmem
    · rw [List.mem_singleton.mp hmem]
      exact hnew

theorem length_of_mem_columns_ofDatabase (b : Block) :
    ∀ entry ∈ (ofDatabase b).columns, entry.2.length = b.height - 1 := by
  rw [ofDatabase_eq_indexUpTo]
  induction b.width with
  | zero => exact fun entry hentry ↦ absurd hentry List.not_mem_nil
  | succ count ih =>
    rw [indexUpTo_succ]
    exact length_of_mem_columns_addColumn ih (length_below b count)

/-! ### The value of a record -/

theorem valueAmong_succ_of_blank {b : Block} {count : Nat} {header : String} {record : Nat}
    (hheader : headerText b count = header) (hblank : valueAmong b count header record = .empty) :
    valueAmong b (count + 1) header record = b.cell (record + 1) count := by
  rw [valueAmong_succ]
  exact if_pos ⟨hheader, (Cell.isEmpty_iff _).mpr hblank⟩

theorem valueAmong_succ_of_kept {b : Block} {count : Nat} {header : String} {record : Nat}
    (h : headerText b count = header → valueAmong b count header record ≠ .empty) :
    valueAmong b (count + 1) header record = valueAmong b count header record := by
  rw [valueAmong_succ]
  exact if_neg fun hfills ↦ h hfills.1 ((Cell.isEmpty_iff _).mp hfills.2)

theorem valueAmong_eq_empty_iff (b : Block) (count : Nat) (header : String) (record : Nat) :
    valueAmong b count header record = .empty ↔
      ∀ column < count, headerText b column = header → b.cell (record + 1) column = .empty := by
  induction count with
  | zero => simp [valueAmong, columnsUnder]
  | succ count ih =>
    rw [Nat.forall_lt_succ_right, ← ih]
    by_cases hheader : headerText b count = header
    · by_cases hblank : valueAmong b count header record = .empty
      · rw [valueAmong_succ_of_blank hheader hblank]
        simp [hheader, hblank]
      · rw [valueAmong_succ_of_kept fun _ ↦ hblank]
        simp [hblank]
    · rw [valueAmong_succ_of_kept fun h ↦ absurd h hheader]
      simp [hheader]

/-- A value that is not blank stands in the first column under the header where it can. -/
theorem exists_column_of_valueAmong (b : Block) (count : Nat) (header : String) (record : Nat)
    (h : valueAmong b count header record ≠ .empty) :
    ∃ column < count, headerText b column = header ∧
      b.cell (record + 1) column = valueAmong b count header record ∧
      ∀ earlier < column, headerText b earlier = header → b.cell (record + 1) earlier = .empty := by
  induction count with
  | zero => exact absurd rfl h
  | succ count ih =>
    by_cases hlast : headerText b count = header ∧ valueAmong b count header record = .empty
    · rw [valueAmong_succ_of_blank hlast.1 hlast.2]
      exact ⟨count, Nat.lt_succ_self count, hlast.1, rfl,
        (valueAmong_eq_empty_iff b count header record).mp hlast.2⟩
    · rw [valueAmong_succ_of_kept (not_and.mp hlast)] at h ⊢
      obtain ⟨column, hcount, hcolumn⟩ := ih h
      exact ⟨column, Nat.lt_succ_of_lt hcount, hcolumn⟩

theorem firstFilled_valueUnder (b : Block) (header : String) (record : Nat) :
    FirstFilled b header record (valueUnder b header record) := by
  by_cases hblank : valueUnder b header record = .empty
  · rw [hblank]
    exact .blank ((valueAmong_eq_empty_iff b b.width header record).mp hblank)
  · obtain ⟨column, hwidth, hheader, hcell, hfirst⟩ :=
      exists_column_of_valueAmong b b.width header record hblank
    have hvalue : b.cell (record + 1) column = valueUnder b header record := hcell
    rw [← hvalue] at hblank ⊢
    exact .filled column hwidth hheader hblank hfirst

/-- The index of a database keeps of each header its first column, and in it the first cell of
every record that is not blank. -/
theorem coalesces_ofDatabase (b : Block) : Coalesces b (ofDatabase b) where
  length_le_width row hrow := by
    rw [width_ofDatabase, b.width_eq_width]
    exact length_le_width hrow
  exists_length_eq_width hrows := by
    rw [width_ofDatabase, b.width_eq_width]
    exact exists_length_eq_width hrows
  width_of_no_rows hrows := by
    rw [width_ofDatabase, b.width_eq_width, hrows]
    rfl
  records := by rw [records_ofDatabase, b.height_eq_length]
  length_of_mem_columns := by
    rw [records_ofDatabase]
    exact length_of_mem_columns_ofDatabase b
  headerAt_iff := headerAt?_ofDatabase_eq_some_iff b
  contains_iff header := by
    rw [contains, isSome_column?_ofDatabase, mem_headers_iff_exists_headerAt?]
  column_iff header := by
    rw [isSome_column?_ofDatabase, mem_headers_iff_exists_headerAt?]
  key_iff header key := by
    rw [key?_eq, contains, ← mem_headers_iff_exists_headerAt?, ← isSome_column?_ofDatabase]
    cases ((ofDatabase b).column? header).isSome with
    | false => simp
    | true => simp [eq_comm]
  length_column header cells hcells := by
    rw [column?_ofDatabase] at hcells
    split at hcells
    · cases hcells
      rw [List.length_map, List.length_range, records_ofDatabase]
    · cases hcells
  entry header cells hcells record value hvalue := by
    rw [column?_ofDatabase] at hcells
    split at hcells
    · cases hcells
      rw [getElem?_map_range] at hvalue
      split at hvalue
      · cases hvalue
        exact firstFilled_valueUnder b header record
      · cases hvalue
    · cases hcells

end Worksheet.Database
