import Mathlib.Data.List.Basic
import Mathlib.Data.List.Induction
import Mathlib.Data.List.Nodup
import Mathlib.Data.Set.Function
import Worksheet.Proofs.Database.Columns

/-!
The buckets of a criteria block.

The columns of one header share a bucket. Filled cell by cell, row after row and from left to
right, the buckets are those of the index (`ofCriteria_eq_filledIndex`): a header with `m` columns
receives `m` cells from every record, so the cell of its column number `k` in row `r` is entry
`(r - 1) * m + k` of its bucket (`getElem?_bucket`). Every cell below the header row has one slot,
and every slot one cell (`bijOn_slot`).
-/

set_option autoImplicit false
set_option relaxedAutoImplicit false

namespace Worksheet.Database

open HeaderIndex

/-! ### Columns under a header -/

theorem mem_columnsUnder_iff (b : Block) (count : Nat) (header : String) (column : Nat) :
    column ∈ columnsUnder b count header ↔ column < count ∧ headerText b column = header := by
  rw [columnsUnder, List.mem_filter, List.mem_range, beq_iff_eq]

theorem mem_columnsUnder_headerText {b : Block} {column : Nat} (h : column < b.width) :
    column ∈ columnsUnder b b.width (headerText b column) :=
  (mem_columnsUnder_iff b b.width _ column).mpr ⟨h, rfl⟩

theorem nodup_columnsUnder (b : Block) (count : Nat) (header : String) :
    (columnsUnder b count header).Nodup :=
  List.nodup_range.filter _

/-! ### Filling cell by cell -/

/-- A column takes its place. Its header has a bucket from the first of its columns on. -/
def HeaderIndex.enter (i : HeaderIndex) (header : String) : HeaderIndex :=
  { i with
    headers := i.headers ++ [some header]
    columns := if i.contains header then i.columns else i.columns ++ [(header, [])] }

/-- A cell goes to the end of the bucket of its header. -/
def HeaderIndex.push (i : HeaderIndex) (header : String) (c : Cell) : HeaderIndex :=
  { i with
    columns := i.columns.map fun (key, cells) ↦
      (key, if header == key then cells ++ [c] else cells) }

/-- The cells of a record, from left to right. -/
def pushRecord (b : Block) (i : HeaderIndex) (record : Nat) : HeaderIndex :=
  (List.range b.width).foldl
    (fun i column ↦ i.push (headerText b column) (b.cell (record + 1) column)) i

/-- The index of a criteria block, all columns entered and then record after record pushed. -/
def filledIndex (b : Block) : HeaderIndex :=
  if b.height = 0 then ⟨[], [], 0⟩
  else
    (List.range (b.height - 1)).foldl (pushRecord b)
      ((headers b).foldl enter ⟨[], [], b.height - 1⟩)

/-- The index of a criteria block with a bucket for every header. -/
def withBuckets (b : Block) (cells : String → List Cell) : HeaderIndex where
  headers := (headers b).map some
  columns := (headers b).eraseDups.map fun header ↦ (header, cells header)
  records := b.height - 1

theorem lookup_map_key (keys : List String) (cells : String → List Cell) (key : String) :
    (keys.map fun k ↦ (k, cells k)).lookup key = if key ∈ keys then some (cells key) else none := by
  induction keys with
  | nil => rfl
  | cons k keys ih =>
    rw [List.map_cons, List.lookup_cons]
    by_cases h : key = k
    · subst h
      simp
    · simp [h, beq_eq_false_iff_ne.mpr h, ih]

theorem foldl_enter (keys : List String) (records : Nat) :
    keys.foldl enter ⟨[], [], records⟩ =
      ⟨keys.map some, keys.eraseDups.map fun key ↦ (key, []), records⟩ := by
  induction keys using List.reverseRecOn with
  | nil => rfl
  | append_singleton keys key ih =>
    rw [List.foldl_concat, ih, enter, contains, column?, lookup_map_key _ fun _ ↦ [],
      List.eraseDups_append, List.map_append, List.map_append]
    by_cases h : key ∈ keys
    · simp [h, List.removeAll]
    · simp [h, List.removeAll, List.eraseDups_cons]

theorem push_withBuckets (b : Block) (cells : String → List Cell) (header : String) (c : Cell) :
    (withBuckets b cells).push header c =
      withBuckets b fun key ↦ cells key ++ if header = key then [c] else [] := by
  unfold push withBuckets
  congr 1
  rw [List.map_map]
  refine List.map_congr_left fun key _ ↦ ?_
  by_cases h : header = key <;> simp [h]

/-- A record gives each bucket the cells under its header. -/
theorem pushRecord_withBuckets (b : Block) (cells : String → List Cell) (record : Nat) :
    pushRecord b (withBuckets b cells) record =
      withBuckets b fun header ↦
        cells header ++ (columnsUnder b b.width header).map (b.cell (record + 1)) := by
  unfold pushRecord
  induction b.width with
  | zero => simp [columnsUnder]
  | succ count ih =>
    rw [List.range_succ, List.foldl_concat, ih, push_withBuckets]
    congr 1
    funext header
    rw [columnsUnder_succ, List.map_append, List.append_assoc]
    by_cases h : headerText b count = header <;> simp [h]

theorem foldl_pushRecord (b : Block) (count : Nat) :
    (List.range count).foldl (pushRecord b) (withBuckets b fun _ ↦ []) =
      withBuckets b fun header ↦ (List.range count).flatMap fun record ↦
        (columnsUnder b b.width header).map (b.cell (record + 1)) := by
  induction count with
  | zero => rfl
  | succ count ih =>
    rw [List.range_succ, List.foldl_concat, ih, pushRecord_withBuckets]
    congr 1
    funext header
    rw [List.flatMap_append, List.flatMap_singleton]

theorem ofCriteria_eq_withBuckets (b : Block) : ofCriteria b = withBuckets b (bucket b) := by
  unfold ofCriteria withBuckets headers
  by_cases h : b.height = 0
  · simp [h, b.width_eq_zero_of_height h]
  · simp [h]

theorem ofCriteria_eq_filledIndex (b : Block) : ofCriteria b = filledIndex b := by
  rw [ofCriteria_eq_withBuckets, filledIndex]
  by_cases h : b.height = 0
  · rw [if_pos h, withBuckets, headers, b.width_eq_zero_of_height h, h]
    rfl
  · rw [if_neg h, foldl_enter]
    exact (foldl_pushRecord b (b.height - 1)).symm

/-! ### Entries of a bucket -/

theorem column?_ofCriteria (b : Block) (header : String) :
    (ofCriteria b).column? header =
      if header ∈ headers b then some (bucket b header) else none := by
  rw [ofCriteria_eq_withBuckets, column?, withBuckets, lookup_map_key]
  simp only [List.mem_eraseDups]

section

variable {α : Type} (f : Nat → List α) (size : Nat) (hf : ∀ r, (f r).length = size)

include hf

theorem length_flatMap_range (n : Nat) : ((List.range n).flatMap f).length = n * size := by
  simp [List.length_flatMap, hf]

theorem getElem?_flatMap_range (n r k : Nat) (hr : r < n) (hk : k < size) :
    ((List.range n).flatMap f)[r * size + k]? = (f r)[k]? := by
  induction n with
  | zero => exact absurd hr (Nat.not_lt_zero r)
  | succ n ih =>
    have hlength := length_flatMap_range f size hf n
    rw [List.range_succ, List.flatMap_append, List.flatMap_singleton]
    rcases Nat.lt_succ_iff_lt_or_eq.mp hr with hlt | rfl
    · have hbound : r * size + k < n * size :=
        Nat.mul_comm r size ▸ Nat.mul_add_lt_mul_of_lt_of_lt hlt hk
      rw [List.getElem?_append_left (by rwa [hlength]), ih hlt]
    · rw [List.getElem?_append_right (by rw [hlength]; exact Nat.le_add_right _ _), hlength,
        Nat.add_sub_cancel_left]

end

theorem length_bucket (b : Block) (header : String) :
    (bucket b header).length = (columnsUnder b b.width header).length * (b.height - 1) := by
  rw [Nat.mul_comm]
  exact length_flatMap_range _ _ (fun _ ↦ List.length_map _) _

/-- Entries are in order of rows, and in one row in order of columns. -/
theorem getElem?_bucket (b : Block) (header : String) (row k column : Nat) (hpos : 0 < row)
    (hrow : row < b.height) (hcolumn : (columnsUnder b b.width header)[k]? = some column) :
    (bucket b header)[(row - 1) * (columnsUnder b b.width header).length + k]? =
      some (b.cell row column) := by
  have hrecord : row - 1 < b.height - 1 := by omega
  obtain ⟨hk, -⟩ := List.getElem?_eq_some_iff.mp hcolumn
  have hentry := getElem?_flatMap_range
    (fun record ↦ (columnsUnder b b.width header).map (b.cell (record + 1)))
    (columnsUnder b b.width header).length (fun _ ↦ List.length_map _) (b.height - 1) (row - 1) k
    hrecord hk
  rw [Nat.sub_add_cancel hpos, List.getElem?_map, hcolumn] at hentry
  exact hentry

/-! ### One slot for every cell -/

/-- The places of the cells below the header row. -/
def body (b : Block) : Set (Nat × Nat) := {p | 0 < p.1 ∧ p.1 < b.height ∧ p.2 < b.width}

/-- The positions in the buckets of an index. -/
def slots (i : HeaderIndex) : Set (String × Nat) :=
  {s | ∃ cells, i.column? s.1 = some cells ∧ s.2 < cells.length}

/-- The bucket of a cell and its position there. -/
def slot (b : Block) (p : Nat × Nat) : String × Nat :=
  let columns := columnsUnder b b.width (headerText b p.2)
  (headerText b p.2, (p.1 - 1) * columns.length + columns.idxOf p.2)

theorem mem_slots_ofCriteria_iff (b : Block) (header : String) (position : Nat) :
    (header, position) ∈ slots (ofCriteria b) ↔
      position < (columnsUnder b b.width header).length * (b.height - 1) := by
  unfold slots
  rw [Set.mem_ofPred_eq, column?_ofCriteria, ← length_bucket]
  by_cases h : header ∈ headers b
  · simp [h]
  · have hnone : columnsUnder b b.width header = [] := columnsUnder_eq_nil b b.width header h
    simp [h, length_bucket, hnone]

theorem mapsTo_slot (b : Block) : Set.MapsTo (slot b) (body b) (slots (ofCriteria b)) := by
  rintro ⟨row, column⟩ ⟨hpos, hrow, hcolumn⟩
  have hmem := mem_columnsUnder_headerText hcolumn
  have hrecord : row - 1 < b.height - 1 := by omega
  rw [slot, mem_slots_ofCriteria_iff, Nat.mul_comm _ (b.height - 1), Nat.mul_comm (row - 1)]
  exact Nat.mul_add_lt_mul_of_lt_of_lt hrecord (List.idxOf_lt_length_of_mem hmem)

/-- The position in a bucket tells the row and the column. -/
theorem position_injective {size r k r' k' : Nat} (hk : k < size) (hk' : k' < size)
    (h : r * size + k = r' * size + k') : r = r' ∧ k = k' := by
  have hsize : 0 < size := Nat.zero_lt_of_lt hk
  obtain ⟨hr, hmod⟩ := (Nat.div_mod_unique (a := r * size + k) hsize).mpr
    ⟨by rw [Nat.add_comm, Nat.mul_comm], hk⟩
  obtain ⟨hr', hmod'⟩ := (Nat.div_mod_unique (a := r' * size + k') hsize).mpr
    ⟨by rw [Nat.add_comm, Nat.mul_comm], hk'⟩
  rw [h] at hr hmod
  exact ⟨hr.symm.trans hr', hmod.symm.trans hmod'⟩

theorem injOn_slot (b : Block) : Set.InjOn (slot b) (body b) := by
  rintro ⟨row, column⟩ ⟨hpos, -, hcolumn⟩ ⟨row', column'⟩ ⟨hpos', -, hcolumn'⟩ heq
  obtain ⟨hheader, hposition⟩ := Prod.ext_iff.mp heq
  change headerText b column = headerText b column' at hheader
  have hmem : column ∈ columnsUnder b b.width (headerText b column) :=
    mem_columnsUnder_headerText hcolumn
  have hmem' : column' ∈ columnsUnder b b.width (headerText b column) :=
    (mem_columnsUnder_iff b b.width _ column').mpr ⟨hcolumn', hheader.symm⟩
  simp only [slot, ← hheader] at hposition
  obtain ⟨hrow, hindex⟩ := position_injective (List.idxOf_lt_length_of_mem hmem)
    (List.idxOf_lt_length_of_mem hmem') hposition
  have hrows : row = row' := by omega
  rw [hrows, (List.idxOf_inj hmem).mp hindex]

theorem surjOn_slot (b : Block) : Set.SurjOn (slot b) (body b) (slots (ofCriteria b)) := by
  rintro ⟨header, position⟩ hslot
  rw [mem_slots_ofCriteria_iff] at hslot
  have hsize : 0 < (columnsUnder b b.width header).length :=
    Nat.pos_of_mul_pos_right (Nat.zero_lt_of_lt hslot)
  have hindex := Nat.mod_lt position hsize
  have hrow := Nat.div_lt_of_lt_mul hslot
  obtain ⟨hcolumn, hheader⟩ :=
    (mem_columnsUnder_iff b b.width header _).mp (List.getElem_mem hindex)
  refine ⟨(position / (columnsUnder b b.width header).length + 1,
    (columnsUnder b b.width header)[position % (columnsUnder b b.width header).length]),
    ⟨Nat.succ_pos _, Nat.add_lt_of_lt_sub hrow, hcolumn⟩, ?_⟩
  have hk := (nodup_columnsUnder b b.width header).idxOf_getElem _ hindex
  simp only [slot, hheader, hk, Nat.add_sub_cancel, Nat.div_add_mod']

theorem bijOn_slot (b : Block) : Set.BijOn (slot b) (body b) (slots (ofCriteria b)) :=
  ⟨mapsTo_slot b, injOn_slot b, surjOn_slot b⟩

theorem getElem?_slot (b : Block) (p : Nat × Nat) (hp : p ∈ body b) :
    (bucket b (slot b p).1)[(slot b p).2]? = some (b.cell p.1 p.2) := by
  obtain ⟨hpos, hrow, hcolumn⟩ := hp
  exact getElem?_bucket b (headerText b p.2) p.1 _ p.2 hpos hrow
    (List.getElem?_idxOf (mem_columnsUnder_headerText hcolumn))

/-- The index of a criteria block, filled cell by cell, keeps the text of every header cell. A text
that heads a column has one bucket, with the cells of its columns in order of rows and then of
columns, and any other text has none. So every cell below the header row has a slot of its own, and
there are no other slots. -/
theorem shared_buckets (b : Block) :
    ofCriteria b = filledIndex b ∧
      (∀ column, (ofCriteria b).headerAt? column =
        if column < b.width then some (headerText b column) else none) ∧
      (∀ header ∈ headers b, ∃ cells, (ofCriteria b).column? header = some cells ∧
        cells.length = (columnsUnder b b.width header).length * (b.height - 1) ∧
        ∀ row k column, 0 < row → row < b.height →
          (columnsUnder b b.width header)[k]? = some column →
            cells[(row - 1) * (columnsUnder b b.width header).length + k]? =
              some (b.cell row column)) ∧
      (∀ header ∉ headers b, (ofCriteria b).column? header = none) ∧
      Set.BijOn (slot b) (body b) (slots (ofCriteria b)) ∧
      ∀ p ∈ body b, ∃ cells, (ofCriteria b).column? (slot b p).1 = some cells ∧
        cells[(slot b p).2]? = some (b.cell p.1 p.2) := by
  refine ⟨ofCriteria_eq_filledIndex b, headerAt?_ofCriteria b, ?_, ?_, bijOn_slot b, ?_⟩
  · intro header hheader
    rw [column?_ofCriteria, if_pos hheader]
    exact ⟨bucket b header, rfl, length_bucket b header, getElem?_bucket b header⟩
  · intro header hheader
    rw [column?_ofCriteria, if_neg hheader]
  · intro p hp
    have hheader : (slot b p).1 ∈ headers b := (mem_headers_iff b _).mpr ⟨p.2, hp.2.2, rfl⟩
    rw [column?_ofCriteria, if_pos hheader]
    exact ⟨_, rfl, getElem?_slot b p hp⟩

example : (ofCriteria (.owned [[.text "Height", .text "Tree", .text "Height"],
    [.text ">10", .text "Apple", .text "<20"], [.text ">30"]])).column? "Height" =
      some [.text ">10", .text "<20", .text ">30", .empty] := by
  rfl

end Worksheet.Database
