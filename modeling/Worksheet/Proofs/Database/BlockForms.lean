import Worksheet.Proofs.Block
import Worksheet.Proofs.Database.ErrorArguments

/-!
The form in which rows are handed to a database function.

Rows may be handed over as a value, as a range that borrows them or as a range that owns them, and
ragged or filled up to a rectangle (`Carries`). Ranges of the same rows are read alike, whoever owns
the rows (`readsAlike_of_rows_eq`). Whatever the form, the block that a function sees has the same
cells, and the value that it reads in the place of a field is the same as long as no cell is itself
a block. A selection depends on nothing else (`run_congr`), so every call comes out the same
(`call_eq_of_carries`).
-/

set_option autoImplicit false
set_option relaxedAutoImplicit false

namespace Worksheet

open Criteria

/-- The forms in which an argument presents a list of rows. -/
inductive Argument.Presents (rows : List (List Cell)) : Argument → Prop where
  | array : Presents rows (.scalar (.array rows))
  | borrowed : Presents rows (.range (.borrowed rows))
  | owned : Presents rows (.range (.owned rows))

/-- An argument carries rows that it presents as they are, or filled up to a rectangle. -/
inductive Argument.Carries (rows : List (List Cell)) (a : Argument) : Prop where
  | ragged (h : a.Presents rows) : Carries rows a
  | padded (h : a.Presents (Block.borrowed rows).toRows) : Carries rows a

/-- No cell is itself a block. -/
def Flat (rows : List (List Cell)) : Prop :=
  ∀ row ∈ rows, ∀ c ∈ row, ∀ inner, c ≠ .array inner

namespace Block

theorem cell_eq_empty_or_mem (b : Block) (row column : Nat) :
    b.cell row column = .empty ∨ ∃ cells ∈ b.rows, b.cell row column ∈ cells := by
  unfold cell
  cases hrow : b.rows[row]? with
  | none => exact Or.inl rfl
  | some cells =>
    rw [Option.bind_some]
    cases hcell : cells[column]? with
    | none => exact Or.inl rfl
    | some c => exact Or.inr ⟨cells, List.mem_of_getElem? hrow, List.mem_of_getElem? hcell⟩

theorem cell_ne_array {b : Block} (hflat : Flat b.rows) (row column : Nat)
    (inner : List (List Cell)) : b.cell row column ≠ .array inner := by
  rcases b.cell_eq_empty_or_mem row column with hempty | ⟨cells, hcells, hmem⟩
  · rw [hempty]
    exact Cell.noConfusion
  · exact hflat cells hcells _ hmem inner

theorem flat_toRows {b : Block} (hflat : Flat b.rows) : Flat b.toRows := by
  intro row hrow c hc inner
  obtain ⟨r, -, rfl⟩ := List.mem_map.mp hrow
  obtain ⟨column, -, rfl⟩ := List.mem_map.mp hc
  exact cell_ne_array hflat r column inner

end Block

namespace Argument

/-- Arguments that no function can tell apart. -/
structure ReadsAlike (a b : Argument) : Prop where
  error? : a.error? = b.error?
  block : a.block = b.block
  value : a.value = b.value

/-- A range is read alike whether its rows are its own or borrowed. -/
theorem readsAlike_of_rows_eq {b c : Block} (h : b.rows = c.rows) :
    ReadsAlike (range b) (range c) where
  error? := rfl
  block := Block.view_congr h
  value := by
    have hcells : b.SameCells c := Block.sameCells_of_rows_eq h
    rw [value, value, hcells.only?, hcells.toRows]

theorem readsAlike_owned (rows : List (List Cell)) :
    ReadsAlike (range (.owned rows)) (range (.borrowed rows)) :=
  readsAlike_of_rows_eq rfl

/-- A range of one cell is read as that cell, and any other range as an array of its rows. -/
theorem single_value_range {b : Block} (hflat : Flat b.rows) :
    (range b).value.single = (Cell.array b.rows).single := by
  rw [b.single_array]
  by_cases hone : b.height = 1 ∧ b.width = 1
  · -- The only cell is read once more here, which a block in it would not survive.
    have honly : b.only? = some (b.cell 0 0) := if_pos hone
    rw [value, honly, Option.getD_some, if_pos hone]
    exact Cell.single_of_ne_array (Block.cell_ne_array hflat 0 0)
  · have honly : b.only? = none := if_neg hone
    rw [value, honly, Option.getD_none, b.single_toRows, b.single_array]

section

variable {rows : List (List Cell)} {a : Argument}

theorem Presents.error?_eq_none (h : a.Presents rows) : a.error? = none := by
  cases h <;> rfl

theorem Presents.block_eq (h : a.Presents rows) : a.block = .borrowed rows := by
  cases h with
  | array => rfl
  | borrowed => rfl
  | owned => exact (readsAlike_owned rows).block

theorem Presents.single_value (hflat : Flat rows) (h : a.Presents rows) :
    a.value.single = (Cell.array rows).single := by
  have hborrowed : (range (.borrowed rows)).value.single = (Cell.array rows).single :=
    single_value_range hflat
  cases h with
  | array => rfl
  | borrowed => exact hborrowed
  | owned =>
    rw [(readsAlike_owned rows).value]
    exact hborrowed

theorem Carries.error?_eq_none (h : a.Carries rows) : a.error? = none := by
  cases h with
  | ragged h => exact h.error?_eq_none
  | padded h => exact h.error?_eq_none

theorem Carries.sameCells_block (h : a.Carries rows) : a.block.SameCells (.borrowed rows) := by
  cases h with
  | ragged h =>
    rw [h.block_eq]
    exact Block.SameCells.refl _
  | padded h =>
    rw [h.block_eq]
    exact Block.sameCells_toRows _

theorem Carries.single_value (hflat : Flat rows) (h : a.Carries rows) :
    a.value.single = (Cell.array rows).single := by
  cases h with
  | ragged h => exact h.single_value hflat
  | padded h =>
    have hpadded : Flat (Block.borrowed rows).toRows := Block.flat_toRows hflat
    exact (h.single_value hpadded).trans (Block.borrowed rows).single_toRows

end

end Argument

namespace Database

open HeaderIndex

/-! ### What a selection depends on -/

section

variable {b c : Block} (h : b.SameCells c)

include h

theorem headerText_congr : headerText b = headerText c := by
  funext column
  rw [headerText, headerText, h.cell]

theorem ofDatabase_congr : ofDatabase b = ofDatabase c := by
  have hbelow : below b = below c := by
    funext column
    simp only [below, h.height, h.cell]
  simp only [ofDatabase, h.height, h.width, headerText_congr h, hbelow]

theorem ofCriteria_congr : ofCriteria b = ofCriteria c := by
  have hbucket : bucket b = bucket c := by
    funext header
    simp only [bucket, h.height, h.width, h.cell, headerText_congr h]
  simp only [ofCriteria, h.height, h.width, headerText_congr h, hbucket]

theorem selection?_congr (m : Matcher) (data criteria : HeaderIndex) :
    Query.selection? m data criteria b = Query.selection? m data criteria c := by
  have hbranch : ∀ records, Query.branch m records b = Query.branch m records c := by
    intro records
    funext applied row
    simp only [Query.branch, h.cell]
  simp only [Query.selection?, hbranch]

end

theorem resolve_congr {field field' : Cell} (h : field.single = field'.single)
    (options : QueryOptions) (data : HeaderIndex) :
    Field.resolve options data field = Field.resolve options data field' := by
  rw [Field.resolve, Field.resolve, h]

/-- A selection reads its blocks cell by cell, and its field as a single cell. -/
theorem run_congr (m : Matcher) (options : QueryOptions)
    {database database' criteria criteria' : Block} {field field' : Cell}
    (hdatabase : database.SameCells database') (hfield : field.single = field'.single)
    (hcriteria : criteria.SameCells criteria') :
    Query.run m options database field criteria =
      Query.run m options database' field' criteria' := by
  rw [Query.run, Query.run, ofDatabase_congr hdatabase, ofCriteria_congr hcriteria,
    selection?_congr hcriteria, resolve_congr hfield]

/-! ### What a call depends on -/

/-- Arguments that a function cannot tell apart where it wants a block. -/
structure SameBlock (a b : Argument) : Prop where
  error? : a.error? = b.error?
  cells : a.block.SameCells b.block

/-- Arguments that a function cannot tell apart where it wants a field. -/
structure SameField (a b : Argument) : Prop where
  error? : a.error? = b.error?
  single : a.value.single = b.value.single

theorem SameBlock.refl (a : Argument) : SameBlock a a := ⟨rfl, Block.SameCells.refl a.block⟩

theorem SameField.refl (a : Argument) : SameField a a := ⟨rfl, rfl⟩

theorem Reduction.eval_congr (r : Reduction) (m : Matcher) {args args' : List Argument}
    (hgather : ∀ options, gather m options args = gather m options args')
    (hempty : fieldIsEmpty args = fieldIsEmpty args') : r.eval m args = r.eval m args' := by
  cases r with
  | aggregate a => simp only [Reduction.eval, Aggregate.eval, hgather, hempty]
  | average => simp only [Reduction.eval, Average.eval, hgather]
  | singleRecord => simp only [Reduction.eval, SingleRecord.eval, hgather]
  | deviation d => simp only [Reduction.eval, Deviation.eval, hgather]

section

variable {database database' field field' criteria criteria' : Argument}
  (hdatabase : SameBlock database database') (hfield : SameField field field')
  (hcriteria : SameBlock criteria criteria')

include hdatabase hfield hcriteria

theorem gather_congr (m : Matcher) (options : QueryOptions) :
    gather m options [database, field, criteria] =
      gather m options [database', field', criteria'] := by
  have herror : [database, field, criteria].findSome? Argument.error? =
      [database', field', criteria'].findSome? Argument.error? := by
    simp only [List.findSome?_cons, hdatabase.error?, hfield.error?, hcriteria.error?]
  rw [gather, gather, herror,
    run_congr m options hdatabase.cells hfield.single hcriteria.cells]

theorem call_congr (f : SheetFunction) (hf : f ∈ functions) (m : Matcher) :
    f.call m [database, field, criteria] = f.call m [database', field', criteria'] := by
  obtain ⟨capabilities, r, hform, -⟩ := reduction_of_mem_functions f hf
  have hempty : fieldIsEmpty [database, field, criteria] =
      fieldIsEmpty [database', field', criteria'] := by
    rw [fieldIsEmpty, fieldIsEmpty, hfield.single]
  have heval : r.eval m [database, field, criteria] = r.eval m [database', field', criteria'] :=
    r.eval_congr m (gather_congr hdatabase hfield hcriteria m) hempty
  have hf' : f.eval m [database, field, criteria] = f.eval m [database', field', criteria'] := by
    rw [hform]
    exact congrArg (Except.mapError EvalFault.error) heval
  rw [SheetFunction.call, SheetFunction.call, hf']
  rfl

end

theorem call_of_length_ne_three {f : SheetFunction} (hf : f ∈ functions) (m : Matcher)
    {args : List Argument} (h : args.length ≠ 3) :
    f.call m args = .error (f.arityError args.length) :=
  f.call_of_not_admits m args ((admits_eq_decide hf args.length).trans (decide_eq_false h))

/-- A call depends on the rows that an argument carries and not on the form in which it carries
them, in every place. In the place of the field the rows must not hold blocks: a range of one cell
is read as that cell, and a block in it would be read once more. -/
theorem call_eq_of_carries (f : SheetFunction) (hf : f ∈ functions) (m : Matcher)
    (rows : List (List Cell)) (a b : Argument) (ha : a.Carries rows) (hb : b.Carries rows)
    (before after : List Argument) (hflat : before.length = 1 → Flat rows) :
    f.call m (before ++ a :: after) = f.call m (before ++ b :: after) := by
  have herror : a.error? = b.error? := ha.error?_eq_none.trans hb.error?_eq_none.symm
  have hblock : SameBlock a b := ⟨herror, ha.sameCells_block.trans hb.sameCells_block.symm⟩
  by_cases hthree : (before ++ a :: after).length = 3
  · match before, after, hthree with
    | [], [field, criteria], _ =>
      exact call_congr hblock (SameField.refl field) (SameBlock.refl criteria) f hf m
    | [database], [criteria], _ =>
      have hrows : Flat rows := hflat rfl
      have hfield : SameField a b :=
        ⟨herror, (ha.single_value hrows).trans (hb.single_value hrows).symm⟩
      exact call_congr (SameBlock.refl database) hfield (SameBlock.refl criteria) f hf m
    | [database, field], [], _ =>
      exact call_congr (SameBlock.refl database) (SameField.refl field) hblock f hf m
    | _ :: _ :: _ :: _, _, hlong =>
      simp only [List.length_append, List.length_cons] at hlong
      omega
  · have hlength : (before ++ b :: after).length = (before ++ a :: after).length := by simp
    rw [call_of_length_ne_three hf m hthree, call_of_length_ne_three hf m (hlength ▸ hthree),
      hlength]

/-- A field of one cell, once as an array and once as a range. -/
theorem call_sum_of_field_forms :
    databaseFunction "DSUM" [.pure, .reduction] (.aggregate .sum) ∈ functions ∧
      Flat [[.text "Age"]] ∧
      (databaseFunction "DSUM" [.pure, .reduction] (.aggregate .sum)).call (Matcher.standard {})
          ([.range (.owned [[.text "Tree", .text "Age"], [.text "Apple", .int 7]])] ++
            .scalar (.array [[.text "Age"]]) :: [.scalar (.array [[.text "Tree"], [.empty]])]) =
        (databaseFunction "DSUM" [.pure, .reduction] (.aggregate .sum)).call (Matcher.standard {})
          ([.range (.owned [[.text "Tree", .text "Age"], [.text "Apple", .int 7]])] ++
            .range (.owned (Block.borrowed [[.text "Age"]]).toRows) ::
              [.scalar (.array [[.text "Tree"], [.empty]])]) := by
  have hmem : databaseFunction "DSUM" [.pure, .reduction] (.aggregate .sum) ∈ functions := by
    simp [functions]
  have hflat : Flat [[.text "Age"]] := by simp [Flat]
  exact ⟨hmem, hflat, call_eq_of_carries _ hmem _ [[.text "Age"]] _ _ (.ragged .array)
    (.padded .owned) _ _ fun _ ↦ hflat⟩

end Database

end Worksheet
