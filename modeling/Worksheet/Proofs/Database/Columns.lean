import Worksheet.Database.HeaderIndex
import Worksheet.Proofs.Block

/-!
The columns of a block, and what its index keeps of them.

`headers` lists the header texts and `valueUnder` reads a record under a header: the first cell
that is not blank among the columns of that header. The index of a database is built one column
after another. `column?_ofDatabase` shows that it ends with those values under every header, and
`headerAt?_ofDatabase` that it keeps the place of the first column of each header only. A criteria
block keeps the place of every column (`headerAt?_ofCriteria`).
-/

set_option autoImplicit false
set_option relaxedAutoImplicit false

namespace Worksheet.Database

open HeaderIndex

/-- The header texts from left to right. -/
def headers (b : Block) : List String := (List.range b.width).map (headerText b)

/-- The first cell that is not blank. -/
def firstFilled (cells : List Cell) : Cell := (cells.find? fun c ↦ !c.isEmpty).getD .empty

/-- The columns under a header among the first `count` columns. -/
def columnsUnder (b : Block) (count : Nat) (header : String) : List Nat :=
  (List.range count).filter fun column ↦ headerText b column == header

/-- What the first `count` columns say of a record under a header. -/
def valueAmong (b : Block) (count : Nat) (header : String) (record : Nat) : Cell :=
  firstFilled ((columnsUnder b count header).map (b.cell (record + 1)))

/-- The value of a record under a header. -/
def valueUnder (b : Block) (header : String) (record : Nat) : Cell :=
  valueAmong b b.width header record

theorem mem_headers_iff (b : Block) (header : String) :
    header ∈ headers b ↔ ∃ column < b.width, headerText b column = header := by
  simp [headers]

theorem getElem?_map_range {α : Type} (f : Nat → α) (n i : Nat) :
    ((List.range n).map f)[i]? = if i < n then some (f i) else none := by
  rw [List.getElem?_map]
  by_cases h : i < n
  · rw [List.getElem?_range h, if_pos h, Option.map_some]
  · have hlength : (List.range n).length ≤ i := by
      rw [List.length_range]
      exact Nat.le_of_not_lt h
    rw [List.getElem?_eq_none hlength, if_neg h, Option.map_none]

/-! ### The first filled cell -/

@[simp] theorem firstFilled_nil : firstFilled [] = .empty := rfl

theorem firstFilled_concat (cells : List Cell) (c : Cell) :
    firstFilled (cells ++ [c]) = if (firstFilled cells).isEmpty then c else firstFilled cells := by
  unfold firstFilled
  have hblank : Cell.isEmpty .empty = true := rfl
  rw [List.find?_append]
  cases h : cells.find? fun c ↦ !c.isEmpty with
  | none =>
    cases hc : c.isEmpty with
    | false => simp [hc, hblank]
    | true => simp [(Cell.isEmpty_iff c).mp hc, hblank]
  | some d =>
    have hd : d.isEmpty = false := by simpa using List.find?_some h
    simp [hd]

theorem columnsUnder_succ (b : Block) (count : Nat) (header : String) :
    columnsUnder b (count + 1) header =
      columnsUnder b count header ++ if headerText b count = header then [count] else [] := by
  unfold columnsUnder
  rw [List.range_succ, List.filter_append]
  by_cases h : headerText b count = header <;> simp [h]

theorem columnsUnder_eq_nil (b : Block) (count : Nat) (header : String)
    (h : header ∉ (List.range count).map (headerText b)) : columnsUnder b count header = [] := by
  refine List.filter_eq_nil_iff.mpr fun column hcolumn hheader ↦ h ?_
  exact List.mem_map.mpr ⟨column, hcolumn, by simpa using hheader⟩

/-- One more column fills a blank under its own header and leaves the other headers alone. -/
theorem valueAmong_succ (b : Block) (count : Nat) (header : String) (record : Nat) :
    valueAmong b (count + 1) header record =
      if headerText b count = header ∧ (valueAmong b count header record).isEmpty then
        b.cell (record + 1) count
      else valueAmong b count header record := by
  unfold valueAmong
  rw [columnsUnder_succ]
  by_cases h : headerText b count = header
  · simp [h, firstFilled_concat]
  · simp [h]

/-! ### Adding a column -/

private theorem lookup_map_values (columns : List (String × List Cell)) (key : String)
    (f : String → List Cell → List Cell) :
    (columns.map fun (k, cells) ↦ (k, f k cells)).lookup key =
      (columns.lookup key).map (f key) := by
  induction columns with
  | nil => rfl
  | cons entry columns ih =>
    obtain ⟨k, cells⟩ := entry
    simp only [List.map_cons, List.lookup_cons]
    by_cases h : key = k
    · simp [h]
    · simp only [beq_eq_false_iff_ne.mpr h, ih]

theorem column?_addColumn (i : HeaderIndex) (header key : String) (cells : List Cell) :
    (i.addColumn header cells).column? key =
      if header = key then some ((i.column? key).elim cells (backfill · cells))
      else i.column? key := by
  unfold addColumn
  by_cases hc : i.contains header
  · obtain ⟨old, hold⟩ := Option.isSome_iff_exists.mp hc
    have hmap := lookup_map_values i.columns key fun k old ↦
      if header == k then backfill old cells else old
    simp only [hc, if_true]
    unfold column? at hold ⊢
    by_cases h : header = key
    · subst h
      rw [hmap]
      simp [hold]
    · rw [hmap]
      cases i.columns.lookup key <;> simp [h]
  · have hnone : i.columns.lookup header = none := by
      cases hl : i.columns.lookup header with
      | none => rfl
      | some old => simp [contains, column?, hl] at hc
    simp only [hc, Bool.false_eq_true, if_false]
    unfold column?
    rw [List.lookup_append, List.lookup_cons, List.lookup_nil]
    by_cases h : header = key
    · subst h
      simp [hnone]
    · simp [h, beq_eq_false_iff_ne.mpr (Ne.symm h)]

theorem headers_addColumn (i : HeaderIndex) (header : String) (cells : List Cell) :
    (i.addColumn header cells).headers =
      i.headers ++ [if i.contains header then none else some header] := by
  unfold addColumn
  by_cases h : i.contains header <;> simp [h]

/-! ### The index of a database -/

/-- The index of the first `count` columns. -/
def indexUpTo (b : Block) (count : Nat) : HeaderIndex :=
  (List.range count).foldl (fun i column ↦ i.addColumn (headerText b column) (below b column))
    ⟨[], [], b.height - 1⟩

theorem indexUpTo_succ (b : Block) (count : Nat) :
    indexUpTo b (count + 1) =
      (indexUpTo b count).addColumn (headerText b count) (below b count) := by
  simp [indexUpTo, List.range_succ]

theorem ofDatabase_eq_indexUpTo (b : Block) : ofDatabase b = indexUpTo b b.width := by
  unfold ofDatabase indexUpTo
  by_cases h : b.height = 0
  · simp [h, b.width_eq_zero_of_height h]
  · simp [h]

@[simp] theorem records_ofDatabase (b : Block) : (ofDatabase b).records = b.height - 1 := by
  rw [ofDatabase_eq_indexUpTo]
  induction b.width with
  | zero => rfl
  | succ count ih => rw [indexUpTo_succ, records_addColumn, ih]

private theorem backfill_map_below (b : Block) (count : Nat) (value : Nat → Cell) :
    backfill ((List.range (b.height - 1)).map value) (below b count) =
      (List.range (b.height - 1)).map fun record ↦
        if (value record).isEmpty then b.cell (record + 1) count else value record := by
  unfold backfill below
  rw [List.zipWith_map, List.zipWith_self]

theorem column?_indexUpTo (b : Block) (count : Nat) (header : String) :
    (indexUpTo b count).column? header =
      if header ∈ (List.range count).map (headerText b) then
        some ((List.range (b.height - 1)).map (valueAmong b count header))
      else none := by
  induction count with
  | zero => rfl
  | succ count ih =>
    have hmem : header ∈ (List.range (count + 1)).map (headerText b) ↔
        header ∈ (List.range count).map (headerText b) ∨ headerText b count = header := by
      rw [List.range_succ, List.map_append, List.mem_append]
      simp [eq_comm]
    have hvalues : valueAmong b (count + 1) header = fun record ↦
        if headerText b count = header ∧ (valueAmong b count header record).isEmpty then
          b.cell (record + 1) count
        else valueAmong b count header record := funext (valueAmong_succ b count header)
    rw [indexUpTo_succ, column?_addColumn, ih, hvalues]
    by_cases hlast : headerText b count = header
    · by_cases hfirst : header ∈ (List.range count).map (headerText b)
      · simp only [hmem, hlast, hfirst, if_true, or_true, true_and, Option.elim,
          backfill_map_below]
      · have hblank (record : Nat) : valueAmong b count header record = .empty := by
          simp [valueAmong, columnsUnder_eq_nil b count header hfirst]
        simp [hmem, hlast, hfirst, hblank, Cell.isEmpty, below]
    · simp [hmem, hlast]

/-- The index holds a header when some column has it, with one value for each record. -/
theorem column?_ofDatabase (b : Block) (header : String) :
    (ofDatabase b).column? header =
      if header ∈ headers b then
        some ((List.range (b.height - 1)).map (valueUnder b header))
      else none := by
  rw [ofDatabase_eq_indexUpTo, column?_indexUpTo]
  rfl

theorem headers_indexUpTo (b : Block) (count : Nat) :
    (indexUpTo b count).headers = (List.range count).map fun column ↦
      if headerText b column ∈ (List.range column).map (headerText b) then none
      else some (headerText b column) := by
  induction count with
  | zero => rfl
  | succ count ih =>
    have hcontains : (indexUpTo b count).contains (headerText b count) =
        decide (headerText b count ∈ (List.range count).map (headerText b)) := by
      unfold contains
      rw [column?_indexUpTo]
      by_cases h : headerText b count ∈ (List.range count).map (headerText b)
      · simp only [h, if_true, decide_true, Option.isSome_some]
      · simp only [h, if_false, decide_false, Option.isSome_none]
    rw [indexUpTo_succ, headers_addColumn, ih, hcontains, List.range_succ, List.map_append]
    simp

/-- Only the first column of a header keeps its place. -/
theorem headerAt?_ofDatabase (b : Block) (column : Nat) :
    (ofDatabase b).headerAt? column =
      if column < b.width ∧ headerText b column ∉ (List.range column).map (headerText b) then
        some (headerText b column)
      else none := by
  unfold headerAt?
  rw [ofDatabase_eq_indexUpTo, headers_indexUpTo, getElem?_map_range]
  by_cases hwidth : column < b.width
  · by_cases hrepeat : headerText b column ∈ (List.range column).map (headerText b) <;>
      simp only [Option.join_some, hrepeat, hwidth, if_true, if_false, not_true_eq_false,
        not_false_eq_true, and_false, and_true]
  · simp [hwidth]

@[simp] theorem width_ofDatabase (b : Block) : (ofDatabase b).width = b.width := by
  simp [HeaderIndex.width, ofDatabase_eq_indexUpTo, headers_indexUpTo]

/-! ### The index of a criteria block -/

theorem headers_ofCriteria (b : Block) : (ofCriteria b).headers = (headers b).map some := by
  unfold ofCriteria headers
  by_cases h : b.height = 0
  · simp [h, b.width_eq_zero_of_height h]
  · simp [h]

@[simp] theorem width_ofCriteria (b : Block) : (ofCriteria b).width = b.width := by
  simp [HeaderIndex.width, headers_ofCriteria, headers]

theorem headerAt?_ofCriteria (b : Block) (column : Nat) :
    (ofCriteria b).headerAt? column =
      if column < b.width then some (headerText b column) else none := by
  unfold headerAt?
  rw [headers_ofCriteria, headers, List.map_map, getElem?_map_range]
  by_cases h : column < b.width
  · simp [h]
  · simp [h]

end Worksheet.Database
