import Worksheet.Database.Query
import Worksheet.Proofs.Database.Columns

/-!
The header that a field asks for.

`Asks` says it without an index: a field counts the columns of the database from one, names a
header, or leaves the choice to the criteria. The ways in which a field resolves are said once
(`resolve_eq_ok_iff`). Resolving a field against the indexes of the two blocks finds a header that
it asks for (`fieldAsks_of_resolve`), and every header that it asks for (`resolve_of_fieldAsks`).
-/

set_option autoImplicit false
set_option relaxedAutoImplicit false

namespace Worksheet.Database

open HeaderIndex

/-- The number by which a field counts columns. -/
def ordinal? : Cell → Option Float
  | .number x => some x
  | .int i => some (Decimal.floatOfInt i)
  | .boolean b => some (if b then 1.0 else 0.0)
  | .text s => Decimal.wholeNumber? s
  | _ => none

/-- A field of one cell asks for a header. The position of a repeated header counts for nothing. -/
inductive Asks (options : QueryOptions) (database criteria : Block) : Cell → String → Prop where
  | ordinal (c : Cell) (x : Float) (column : Nat) (hordinal : ordinal? c = some x)
      (hnat : Decimal.toNat? x = some (column + 1)) (hwidth : column < database.width)
      (hfirst : headerText database column ∉ (List.range column).map (headerText database)) :
      Asks options database criteria c (headerText database column)
  | name (s : String) (hname : Decimal.wholeNumber? s = none) :
      Asks options database criteria (.text s) s
  | listing (rows : List (List Cell)) :
      Asks options database criteria (.array rows) (Cell.array rows).display
  | firstCriteriaHeader (hempty : options.allowEmptyField = true) (hwidth : 0 < criteria.width) :
      Asks options database criteria .empty (headerText criteria 0)

/-- A block that amounts to one cell asks as that cell does. -/
def FieldAsks (options : QueryOptions) (database criteria : Block) (field : Cell)
    (header : String) : Prop :=
  ∃ c, field.AmountsTo c ∧ Asks options database criteria c header

theorem ofOrdinal_eq_ok_iff (database : Block) (x : Float) (f : Field) :
    Field.ofOrdinal (ofDatabase database) x = .ok f ↔
      ∃ column, Decimal.toNat? x = some (column + 1) ∧ column < database.width ∧
        headerText database column ∉ (List.range column).map (headerText database) ∧
        f = .named (headerText database column) := by
  unfold Field.ofOrdinal
  cases hnat : Decimal.toNat? x with
  | none => simp
  | some n =>
    cases n with
    | zero => simp
    | succ column =>
      simp only [headerAt?_ofDatabase]
      by_cases h : column < database.width ∧
          headerText database column ∉ (List.range column).map (headerText database)
      · rw [if_pos h]
        constructor
        · intro hf
          cases hf
          exact ⟨column, rfl, h.1, h.2, rfl⟩
        · intro h
          obtain ⟨other, hother, -, -, rfl⟩ := h
          cases hother
          rfl
      · rw [if_neg h]
        constructor
        · intro hf
          cases hf
        · intro hf
          obtain ⟨other, hother, hwidth, hfirst, -⟩ := hf
          cases hother
          exact absurd ⟨hwidth, hfirst⟩ h

/-- The ways in which a field resolves: a number counts columns, another text and the listing of a
block name a header, and an empty cell leaves the choice where that is allowed. -/
theorem resolve_eq_ok_iff (options : QueryOptions) (data : HeaderIndex) (field : Cell) (f : Field) :
    Field.resolve options data field = .ok f ↔
      ∃ c, field.AmountsTo c ∧
        ((∃ x, ordinal? c = some x ∧ Field.ofOrdinal data x = .ok f) ∨
          (∃ s, c = .text s ∧ Decimal.wholeNumber? s = none ∧ f = .named s) ∨
          (∃ rows, c = .array rows ∧ f = .named (Cell.array rows).display) ∨
          (c = .empty ∧ options.allowEmptyField = true ∧ f = .firstCriteriaHeader)) := by
  simp only [← Cell.single_eq_ok_iff]
  unfold Field.resolve
  cases field.single with
  | error n => simp
  | ok c =>
    cases c with
    | int i => simp [ordinal?]
    | number x => simp [ordinal?]
    | boolean b => simp [ordinal?]
    | text s =>
      cases hwhole : Decimal.wholeNumber? s with
      | none => simpa [ordinal?, hwhole] using eq_comm
      | some x => simp [ordinal?, hwhole]
    | array rows => simpa [ordinal?] using eq_comm
    | empty =>
      cases options.allowEmptyField with
      | false => simp [ordinal?]
      | true => simpa [ordinal?] using eq_comm
    | error e => simp [ordinal?]

theorem fieldAsks_of_resolve {options : QueryOptions} {database criteria : Block} {field : Cell}
    {f : Field} {header : String}
    (hf : Field.resolve options (ofDatabase database) field = .ok f)
    (hheader : f.header (ofCriteria criteria) = .ok header) :
    FieldAsks options database criteria field header := by
  obtain ⟨c, hcell, hways⟩ := (resolve_eq_ok_iff ..).mp hf
  refine ⟨c, hcell, ?_⟩
  rcases hways with ⟨x, hordinal, hof⟩ | ⟨s, rfl, hname, rfl⟩ | ⟨rows, rfl, rfl⟩ |
    ⟨rfl, hallow, rfl⟩
  · obtain ⟨column, hnat, hwidth, hfirst, rfl⟩ := (ofOrdinal_eq_ok_iff database x f).mp hof
    cases hheader
    exact .ordinal c x column hordinal hnat hwidth hfirst
  · cases hheader
    exact .name _ hname
  · cases hheader
    exact .listing rows
  · rw [Field.header, headerAt?_ofCriteria] at hheader
    by_cases hwidth : 0 < criteria.width
    · rw [if_pos hwidth] at hheader
      cases hheader
      exact .firstCriteriaHeader hallow hwidth
    · rw [if_neg hwidth] at hheader
      cases hheader

theorem resolve_of_fieldAsks {options : QueryOptions} {database criteria : Block} {field : Cell}
    {header : String} (h : FieldAsks options database criteria field header) :
    ∃ f, Field.resolve options (ofDatabase database) field = .ok f ∧
      f.header (ofCriteria criteria) = .ok header := by
  obtain ⟨c, hcell, hasks⟩ := h
  simp only [resolve_eq_ok_iff]
  cases hasks with
  | ordinal _ x column hordinal hnat hwidth hfirst =>
    have hof := (ofOrdinal_eq_ok_iff database x _).mpr ⟨column, hnat, hwidth, hfirst, rfl⟩
    exact ⟨_, ⟨c, hcell, Or.inl ⟨x, hordinal, hof⟩⟩, rfl⟩
  | name _ hname => exact ⟨_, ⟨_, hcell, Or.inr (Or.inl ⟨header, rfl, hname, rfl⟩)⟩, rfl⟩
  | listing rows => exact ⟨_, ⟨_, hcell, Or.inr (Or.inr (Or.inl ⟨rows, rfl, rfl⟩))⟩, rfl⟩
  | firstCriteriaHeader hallow hwidth =>
    refine ⟨_, ⟨_, hcell, Or.inr (Or.inr (Or.inr ⟨rfl, hallow, rfl⟩))⟩, ?_⟩
    rw [Field.header, headerAt?_ofCriteria, if_pos hwidth]

end Worksheet.Database
