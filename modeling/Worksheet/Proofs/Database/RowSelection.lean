import Mathlib.Data.List.Sort
import Worksheet.Proofs.Database.FieldHeaders
import Worksheet.Proofs.Database.Masks

/-!
Selection of records by a criteria block, said without masks and indexes.

Criteria constrain the records when there is a row below their headers and one of the headers
names a column of the database (`Constrains`). A record is then selected when some criteria row
accepts it in every column whose header names a column of the database (`MeetsSomeRow`).
`selects_selectionMask` shows that the query builds the mask of exactly these records, and
`run_eq_some_iff` that it answers with their values under the header that the field asks for.
-/

set_option autoImplicit false
set_option relaxedAutoImplicit false

namespace Worksheet.Database

open Worksheet.Criteria HeaderIndex

/-- The condition that a criteria cell states. -/
def conditionOf (m : Matcher) (cell : Cell) : Condition :=
  if m.openEnded then (m.parse cell.display).openEnd else m.parse cell.display

/-- An error accepts nothing, an empty text accepts everything, and any other cell accepts what
its condition holds of. -/
def Accepts (m : Matcher) (cell value : Cell) : Prop :=
  cell.isError = false ∧ (cell.display = "" ∨ m.test value (conditionOf m cell) = true)

def Constrains (database criteria : Block) : Prop :=
  1 < criteria.height ∧ ∃ column < criteria.width, headerText criteria column ∈ headers database

/-- One criteria row accepts the record in every column that names a column of the database. -/
def MeetsRow (m : Matcher) (database criteria : Block) (row record : Nat) : Prop :=
  ∀ column < criteria.width, headerText criteria column ∈ headers database →
    Accepts m (criteria.cell row column) (valueUnder database (headerText criteria column) record)

def MeetsSomeRow (m : Matcher) (database criteria : Block) (record : Nat) : Prop :=
  ∃ row, 0 < row ∧ row < criteria.height ∧ MeetsRow m database criteria row record

def IsSelected (m : Matcher) (database criteria : Block) (record : Nat) : Prop :=
  record < database.height - 1 ∧
    (Constrains database criteria → MeetsSomeRow m database criteria record)

/-! ### The mask of a criteria block -/

theorem accepts_ofCell_iff (m : Matcher) (cell value : Cell) :
    (CellTest.ofCell m cell).accepts m value = true ↔ Accepts m cell value := by
  unfold CellTest.ofCell Accepts conditionOf
  cases herror : cell.isError with
  | true => simp [CellTest.accepts]
  | false =>
    by_cases htext : cell.display = ""
    · simp [htext, CellTest.accepts]
    · simp [htext, CellTest.accepts]

theorem mem_applied_iff (database criteria : Block) (column : Nat) (values : List Cell) :
    (column, values) ∈ Query.applied (ofDatabase database) (ofCriteria criteria) ↔
      column < criteria.width ∧ headerText criteria column ∈ headers database ∧
        values = (List.range (database.height - 1)).map
          (valueUnder database (headerText criteria column)) := by
  unfold Query.applied
  rw [List.mem_filterMap, width_ofCriteria]
  constructor
  · intro h
    obtain ⟨other, hother, heq⟩ := h
    have hwidth : other < criteria.width := List.mem_range.mp hother
    rw [headerAt?_ofCriteria, if_pos hwidth, Option.bind_some, column?_ofDatabase] at heq
    by_cases hmem : headerText criteria other ∈ headers database
    · rw [if_pos hmem] at heq
      cases heq
      exact ⟨hwidth, hmem, rfl⟩
    · rw [if_neg hmem] at heq
      cases heq
  · intro h
    obtain ⟨hwidth, hmem, rfl⟩ := h
    refine ⟨column, List.mem_range.mpr hwidth, ?_⟩
    rw [headerAt?_ofCriteria, if_pos hwidth, Option.bind_some, column?_ofDatabase, if_pos hmem]
    rfl

theorem applied_eq_nil_iff (database criteria : Block) :
    Query.applied (ofDatabase database) (ofCriteria criteria) = [] ↔
      ∀ column < criteria.width, headerText criteria column ∉ headers database := by
  rw [List.eq_nil_iff_forall_not_mem]
  constructor
  · intro h column hwidth hmem
    exact h _ ((mem_applied_iff database criteria column _).mpr ⟨hwidth, hmem, rfl⟩)
  · intro h entry hmem
    obtain ⟨column, values⟩ := entry
    obtain ⟨hwidth, hheader, -⟩ := (mem_applied_iff database criteria column values).mp hmem
    exact h column hwidth hheader

/-- The flags of one criteria cell over the values of a column. -/
private def cellMask (m : Matcher) (criteria : Block) (row : Nat) (column : Nat × List Cell) :
    RowMask :=
  ⟨column.2.map ((CellTest.ofCell m (criteria.cell row column.1)).accepts m)⟩

private theorem selects_cellMask (m : Matcher) (criteria : Block) (row records column record : Nat)
    (value : Nat → Cell) :
    (cellMask m criteria row (column, (List.range records).map value)).Selects record ↔
      record < records ∧ Accepts m (criteria.cell row column) (value record) := by
  unfold cellMask RowMask.Selects
  rw [List.map_map, getElem?_map_range]
  by_cases h : record < records
  · simp [h, accepts_ofCell_iff]
  · simp [h]

private theorem branch_eq_foldl (m : Matcher) (records : Nat) (criteria : Block)
    (applied : List (Nat × List Cell)) (row : Nat) :
    Query.branch m records criteria applied row =
      applied.foldl (fun mask column ↦ mask.and (cellMask m criteria row column))
        (RowMask.all records) := rfl

theorem size_branch (m : Matcher) (records : Nat) (criteria : Block)
    (applied : List (Nat × List Cell)) (row : Nat) :
    (Query.branch m records criteria applied row).size = records := by
  rw [branch_eq_foldl, RowMask.size_foldl _ fun _ _ ↦ RowMask.size_and _ _, RowMask.size_all]

/-- A criteria row selects the records that it accepts. -/
theorem selects_branch (m : Matcher) (database criteria : Block) (row record : Nat) :
    (Query.branch m (database.height - 1) criteria
        (Query.applied (ofDatabase database) (ofCriteria criteria)) row).Selects record ↔
      record < database.height - 1 ∧ MeetsRow m database criteria row record := by
  have hsize : ∀ column ∈ Query.applied (ofDatabase database) (ofCriteria criteria),
      (cellMask m criteria row column).size = (RowMask.all (database.height - 1)).size := by
    intro entry hmem
    obtain ⟨column, values⟩ := entry
    obtain ⟨-, -, rfl⟩ := (mem_applied_iff database criteria column values).mp hmem
    rw [RowMask.size_all]
    simp [cellMask, RowMask.size]
  rw [branch_eq_foldl, RowMask.selects_foldl_and _ _ _ _ hsize, RowMask.selects_all]
  refine and_congr_right fun hrecord ↦ ?_
  constructor
  · intro h column hwidth hheader
    have hmem := (mem_applied_iff database criteria column _).mpr ⟨hwidth, hheader, rfl⟩
    have hselects := (selects_cellMask m criteria row _ column record _).mp (h _ hmem)
    exact hselects.2
  · intro h entry hmem
    obtain ⟨column, values⟩ := entry
    obtain ⟨hwidth, hheader, rfl⟩ := (mem_applied_iff database criteria column values).mp hmem
    exact (selects_cellMask m criteria row _ column record _).mpr
      ⟨hrecord, h column hwidth hheader⟩

theorem selection?_eq_none_iff (m : Matcher) (database criteria : Block) :
    Query.selection? m (ofDatabase database) (ofCriteria criteria) criteria = none ↔
      ¬ Constrains database criteria := by
  unfold Query.selection? Constrains
  simp only [List.isEmpty_iff, applied_eq_nil_iff, records_ofCriteria]
  constructor
  · intro h hconstrains
    obtain ⟨hheight, column, hwidth, hheader⟩ := hconstrains
    have happlies : ¬((∀ column < criteria.width, headerText criteria column ∉ headers database) ∨
        criteria.height - 1 = 0) := by
      intro hfree
      rcases hfree with hnone | hrecords
      · exact hnone column hwidth hheader
      · omega
    rw [if_neg happlies] at h
    cases h
  · intro h
    refine if_pos ?_
    by_cases hheight : 1 < criteria.height
    · exact Or.inl fun column hwidth hheader ↦ h ⟨hheight, column, hwidth, hheader⟩
    · exact Or.inr (by omega)

/-- The mask of the selected records; every record when the criteria do not constrain. -/
def selectionMask (m : Matcher) (database criteria : Block) : RowMask :=
  (Query.selection? m (ofDatabase database) (ofCriteria criteria) criteria).getD
    (RowMask.all (database.height - 1))

private theorem selectionMask_of_constrains (m : Matcher) (database criteria : Block)
    (h : Constrains database criteria) :
    selectionMask m database criteria =
      (List.range (criteria.height - 1)).foldl
        (fun mask record ↦ mask.or (Query.branch m (database.height - 1) criteria
          (Query.applied (ofDatabase database) (ofCriteria criteria)) (record + 1)))
        (RowMask.none (database.height - 1)) := by
  unfold selectionMask
  cases hselection : Query.selection? m (ofDatabase database) (ofCriteria criteria) criteria with
  | none => exact absurd h ((selection?_eq_none_iff m database criteria).mp hselection)
  | some mask =>
    unfold Query.selection? at hselection
    dsimp only at hselection
    split at hselection
    · cases hselection
    · cases hselection
      rw [records_ofDatabase, records_ofCriteria, Option.getD_some]

theorem size_selectionMask (m : Matcher) (database criteria : Block) :
    (selectionMask m database criteria).size = database.height - 1 := by
  by_cases h : Constrains database criteria
  · rw [selectionMask_of_constrains m database criteria h,
      RowMask.size_foldl _ fun _ _ ↦ RowMask.size_or _ _, RowMask.size_none]
  · rw [selectionMask, (selection?_eq_none_iff m database criteria).mpr h, Option.getD_none,
      RowMask.size_all]

/-- The query selects exactly the records that the criteria select. -/
theorem selects_selectionMask (m : Matcher) (database criteria : Block) (record : Nat) :
    (selectionMask m database criteria).Selects record ↔
      IsSelected m database criteria record := by
  unfold IsSelected
  by_cases h : Constrains database criteria
  · rw [selectionMask_of_constrains m database criteria h, RowMask.selects_foldl_or _ _ _ _
      fun row _ ↦ by rw [size_branch, RowMask.size_none]]
    simp only [selects_branch]
    constructor
    · intro hselects
      rcases hselects with hnone | ⟨row, hrow, hrecord, hmeets⟩
      · exact absurd hnone (RowMask.not_selects_none _ _)
      · have hlt : row < criteria.height - 1 := List.mem_range.mp hrow
        exact ⟨hrecord, fun _ ↦ ⟨row + 1, by omega, by omega, hmeets⟩⟩
    · intro hselected
      obtain ⟨hrecord, hsome⟩ := hselected
      obtain ⟨row, hpos, hlt, hmeets⟩ := hsome h
      obtain ⟨above, rfl⟩ := Nat.exists_eq_succ_of_ne_zero (by omega : row ≠ 0)
      exact Or.inr ⟨above, List.mem_range.mpr (by omega), hrecord, hmeets⟩
  · rw [selectionMask, (selection?_eq_none_iff m database criteria).mpr h, Option.getD_none,
      RowMask.selects_all]
    simp [h]

theorem count_selectionMask_eq_zero_iff (m : Matcher) (database criteria : Block) :
    (selectionMask m database criteria).count = 0 ↔
      ∀ record, ¬ IsSelected m database criteria record := by
  rw [← RowMask.length_selected, List.length_eq_zero_iff, List.eq_nil_iff_forall_not_mem]
  simp only [RowMask.mem_selected, selects_selectionMask]

/-! ### The answer of a query -/

/-- The values under a header on the selected records, in their order. -/
def selectedValues (m : Matcher) (options : QueryOptions) (database criteria : Block)
    (header : String) : List Cell :=
  ((selectionMask m database criteria).selected.map (valueUnder database header)).filter
    fun c ↦ options.keepEmpty || !c.isEmpty

private theorem run_of_resolve (m : Matcher) (options : QueryOptions) (database : Block)
    (field : Cell) (criteria : Block) (f : Field)
    (hf : Field.resolve options (ofDatabase database) field = .ok f) :
    Query.run m options database field criteria =
      match Query.selection? m (ofDatabase database) (ofCriteria criteria) criteria with
      | none => some <$> Query.project options (ofDatabase database) (ofCriteria criteria) f
          (RowMask.all (database.height - 1))
      | some mask =>
        if mask.count = 0 then .ok none
        else some <$> Query.project options (ofDatabase database) (ofCriteria criteria) f mask := by
  unfold Query.run
  dsimp only
  rw [hf, records_ofDatabase]
  rfl

theorem run_eq_error (m : Matcher) (options : QueryOptions) (database : Block) (field : Cell)
    (criteria : Block) (fault : QueryFault)
    (hf : Field.resolve options (ofDatabase database) field = .error fault) :
    Query.run m options database field criteria = .error fault := by
  unfold Query.run
  dsimp only
  rw [hf]
  rfl

/-- Constraining criteria that select no record end the query before its field is looked up. -/
theorem run_eq_none (m : Matcher) (options : QueryOptions) (database : Block) (field : Cell)
    (criteria : Block) (f : Field)
    (hf : Field.resolve options (ofDatabase database) field = .ok f)
    (hconstrains : Constrains database criteria)
    (hnone : ∀ record, ¬ IsSelected m database criteria record) :
    Query.run m options database field criteria = .ok none := by
  have hcount := (count_selectionMask_eq_zero_iff m database criteria).mpr hnone
  rw [run_of_resolve m options database field criteria f hf]
  cases hselection : Query.selection? m (ofDatabase database) (ofCriteria criteria) criteria with
  | none => exact absurd hconstrains ((selection?_eq_none_iff m database criteria).mp hselection)
  | some mask =>
    rw [selectionMask, hselection, Option.getD_some] at hcount
    exact if_pos hcount

theorem run_eq_project (m : Matcher) (options : QueryOptions) (database : Block) (field : Cell)
    (criteria : Block) (f : Field)
    (hf : Field.resolve options (ofDatabase database) field = .ok f)
    (hsome : Constrains database criteria → ∃ record, IsSelected m database criteria record) :
    Query.run m options database field criteria =
      some <$> Query.project options (ofDatabase database) (ofCriteria criteria) f
        (selectionMask m database criteria) := by
  rw [run_of_resolve m options database field criteria f hf, selectionMask]
  cases hselection : Query.selection? m (ofDatabase database) (ofCriteria criteria) criteria with
  | none => rfl
  | some mask =>
    have hconstrains : Constrains database criteria := by
      by_contra h
      rw [(selection?_eq_none_iff m database criteria).mpr h] at hselection
      cases hselection
    obtain ⟨record, hrecord⟩ := hsome hconstrains
    have hcount : mask.count ≠ 0 := by
      intro hzero
      refine (count_selectionMask_eq_zero_iff m database criteria).mp ?_ record hrecord
      rw [selectionMask, hselection, Option.getD_some, hzero]
    exact if_neg hcount

theorem project_eq_headerFault {options : QueryOptions} {data criteria : HeaderIndex} {f : Field}
    {fault : QueryFault} (mask : RowMask) (hheader : f.header criteria = .error fault) :
    Query.project options data criteria f mask = .error fault := by
  rw [Query.project, hheader]
  rfl

theorem project_eq_noSuchHeader {options : QueryOptions} {data criteria : HeaderIndex} {f : Field}
    {header : String} (mask : RowMask) (hheader : f.header criteria = .ok header)
    (hcolumn : data.column? header = none) :
    Query.project options data criteria f mask = .error (.noSuchHeader header) := by
  unfold Query.project
  rw [hheader]
  dsimp only [bind, Except.bind]
  rw [hcolumn]
  rfl

theorem project_eq_values {options : QueryOptions} {data criteria : HeaderIndex} {f : Field}
    {header : String} {column : List Cell} (mask : RowMask)
    (hheader : f.header criteria = .ok header) (hcolumn : data.column? header = some column) :
    Query.project options data criteria f mask =
      if (mask.pick column).filter (fun c ↦ options.keepEmpty || !c.isEmpty) = [] then
        .error .nothingSurvives
      else .ok ((mask.pick column).filter fun c ↦ options.keepEmpty || !c.isEmpty) := by
  unfold Query.project
  rw [hheader]
  dsimp only [bind, Except.bind]
  rw [hcolumn]
  simp only [List.isEmpty_iff]
  rfl

/-- A header of the database is projected to its values on the selected records. -/
theorem project_eq_selectedValues (m : Matcher) (options : QueryOptions)
    {database criteria : Block} {f : Field} {header : String}
    (hheader : f.header (ofCriteria criteria) = .ok header) (hmem : header ∈ headers database) :
    Query.project options (ofDatabase database) (ofCriteria criteria) f
        (selectionMask m database criteria) =
      if selectedValues m options database criteria header = [] then .error .nothingSurvives
      else .ok (selectedValues m options database criteria header) := by
  have hcolumn := column?_ofDatabase database header
  rw [if_pos hmem] at hcolumn
  have hpick : (selectionMask m database criteria).pick
      ((List.range (database.height - 1)).map (valueUnder database header)) =
        (selectionMask m database criteria).selected.map (valueUnder database header) := by
    rw [← size_selectionMask m database criteria, RowMask.pick_map_range]
  rw [project_eq_values _ hheader hcolumn, hpick, selectedValues]

/-- A projection reads the column of the wanted header on the selected records. -/
theorem project_eq_ok_iff (m : Matcher) (options : QueryOptions) (database criteria : Block)
    (f : Field) (values : List Cell) :
    Query.project options (ofDatabase database) (ofCriteria criteria) f
        (selectionMask m database criteria) = .ok values ↔
      ∃ header, f.header (ofCriteria criteria) = .ok header ∧ header ∈ headers database ∧
        values = selectedValues m options database criteria header ∧ values ≠ [] := by
  cases hheader : f.header (ofCriteria criteria) with
  | error fault =>
    rw [project_eq_headerFault _ hheader]
    simp
  | ok header =>
    by_cases hmem : header ∈ headers database
    · rw [project_eq_selectedValues m options hheader hmem]
      by_cases hempty : selectedValues m options database criteria header = []
      · simp [hempty]
      · rw [if_neg hempty]
        constructor
        · intro hok
          cases hok
          exact ⟨header, rfl, hmem, rfl, hempty⟩
        · intro hex
          obtain ⟨other, hok, -, rfl, -⟩ := hex
          cases hok
          rfl
    · have hcolumn := column?_ofDatabase database header
      rw [if_neg hmem] at hcolumn
      rw [project_eq_noSuchHeader _ hheader hcolumn]
      simp [hmem]

private theorem map_some_eq_ok_iff {ε α : Type} (x : Except ε α) (a : α) :
    some <$> x = (.ok (some a) : Except ε (Option α)) ↔ x = .ok a := by
  cases x <;> simp [Functor.map, Except.map]

theorem selected_selectionMask_eq_of_mem_iff (m : Matcher) (database criteria : Block)
    (rows : List Nat) (hsorted : rows.Pairwise (· < ·))
    (hrows : ∀ record, record ∈ rows ↔ IsSelected m database criteria record) :
    (selectionMask m database criteria).selected = rows := by
  refine (RowMask.pairwise_selected _).eq_of_mem_iff hsorted fun record ↦ ?_
  rw [RowMask.mem_selected, selects_selectionMask, hrows]

/-- A query answers with values exactly when its field asks for a header of the database and some
value under it survives: they are the values of the selected records in their order, without the
blanks unless blanks are kept. -/
theorem run_eq_some_iff (m : Matcher) (options : QueryOptions) (database : Block) (field : Cell)
    (criteria : Block) (values : List Cell) :
    Query.run m options database field criteria = .ok (some values) ↔
      ∃ (header : String) (rows : List Nat),
        FieldAsks options database criteria field header ∧ header ∈ headers database ∧
        rows.Pairwise (· < ·) ∧
        (∀ record, record ∈ rows ↔ IsSelected m database criteria record) ∧
        values = (rows.map (valueUnder database header)).filter
          (fun c ↦ options.keepEmpty || !c.isEmpty) ∧
        values ≠ [] := by
  constructor
  · intro hrun
    cases hf : Field.resolve options (ofDatabase database) field with
    | error fault =>
      rw [run_eq_error m options database field criteria fault hf] at hrun
      cases hrun
    | ok f =>
      have hsome : Constrains database criteria →
          ∃ record, IsSelected m database criteria record := by
        intro hconstrains
        by_contra hnone
        rw [run_eq_none m options database field criteria f hf hconstrains
          (not_exists.mp hnone)] at hrun
        cases hrun
      rw [run_eq_project m options database field criteria f hf hsome, map_some_eq_ok_iff,
        project_eq_ok_iff] at hrun
      obtain ⟨header, hheader, hmem, hvalues, hne⟩ := hrun
      refine ⟨header, (selectionMask m database criteria).selected,
        fieldAsks_of_resolve hf hheader, hmem, RowMask.pairwise_selected _, fun record ↦ ?_,
        hvalues, hne⟩
      rw [RowMask.mem_selected, selects_selectionMask]
  · intro h
    obtain ⟨header, rows, hasks, hmem, hsorted, hrows, hvalues, hne⟩ := h
    obtain ⟨f, hf, hheader⟩ := resolve_of_fieldAsks hasks
    have hselected := selected_selectionMask_eq_of_mem_iff m database criteria rows hsorted hrows
    have hsome : Constrains database criteria →
        ∃ record, IsSelected m database criteria record := by
      intro _
      obtain ⟨value, hvalue⟩ := List.exists_mem_of_ne_nil values hne
      rw [hvalues] at hvalue
      obtain ⟨record, hrecord, -⟩ := List.mem_map.mp (List.mem_of_mem_filter hvalue)
      exact ⟨record, (hrows record).mp hrecord⟩
    rw [run_eq_project m options database field criteria f hf hsome, map_some_eq_ok_iff,
      project_eq_ok_iff]
    exact ⟨header, hheader, hmem, by rw [hvalues, selectedValues, hselected], hne⟩

end Worksheet.Database
