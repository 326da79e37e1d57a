import Worksheet.Proofs.Database.RowSelection

/-!
Which of its outcomes a query has.

A field that fails on sight comes first, whatever the criteria say (`FieldFails`). Criteria that
select no record come next, and a field that no header names is not noticed until then. The missing
header comes third and a column of which nothing survives last. `Outcome` lists the outcomes with
the conditions under which none before them applies, and `answer_iff_outcome` shows that a query
has exactly the outcome that is due.
-/

set_option autoImplicit false
set_option relaxedAutoImplicit false

namespace Worksheet.Database

open Worksheet.Criteria HeaderIndex

/-! ### Fields that fail on sight -/

/-- The number is the place of a column, counted from one. A repeated header keeps no place. -/
def NamesColumn (database : Block) (x : Float) : Prop :=
  ∃ column, Decimal.toNat? x = some (column + 1) ∧ column < database.width ∧
    headerText database column ∉ (List.range column).map (headerText database)

inductive FieldFails (options : QueryOptions) (database : Block) (field : Cell) :
    QueryFault → Prop where
  | manyCells (n : NotSingle) (hmany : field.HoldsMany n) :
      FieldFails options database field .fieldNotSingle
  | errorCell (e : CellError) (hcell : field.AmountsTo (.error e)) :
      FieldFails options database field (.fieldError e)
  | emptyCell (hcell : field.AmountsTo .empty) (hallow : options.allowEmptyField = false) :
      FieldFails options database field .fieldEmpty
  | ordinal (c : Cell) (x : Float) (hcell : field.AmountsTo c) (hordinal : ordinal? c = some x)
      (hnone : ¬ NamesColumn database x) :
      FieldFails options database field (.noSuchOrdinal x database.width)

theorem ofOrdinal_eq_error_iff (database : Block) (x : Float) (fault : QueryFault) :
    Field.ofOrdinal (ofDatabase database) x = .error fault ↔
      ¬ NamesColumn database x ∧ fault = .noSuchOrdinal x database.width := by
  have hok := ofOrdinal_eq_ok_iff database x
  by_cases hnames : NamesColumn database x
  · obtain ⟨column, hnat, hwidth, hfirst⟩ := hnames
    rw [(hok (.named (headerText database column))).mpr ⟨column, hnat, hwidth, hfirst, rfl⟩]
    refine iff_of_false (fun h ↦ by cases h) fun h ↦ h.1 ⟨column, hnat, hwidth, hfirst⟩
  · have hfault : Field.ofOrdinal (ofDatabase database) x =
        .error (.noSuchOrdinal x database.width) := by
      cases hresult : Field.ofOrdinal (ofDatabase database) x with
      | ok f =>
        obtain ⟨column, hnat, hwidth, hfirst, -⟩ := (hok f).mp hresult
        exact absurd ⟨column, hnat, hwidth, hfirst⟩ hnames
      | error fault =>
        unfold Field.ofOrdinal at hresult
        dsimp only at hresult
        split at hresult
        · cases hresult
        · cases hresult
          rw [width_ofDatabase]
    rw [hfault]
    constructor
    · intro h
      cases h
      exact ⟨hnames, rfl⟩
    · rintro ⟨-, rfl⟩
      rfl

theorem fieldFails_of_holdsMany (options : QueryOptions) (database : Block) {field : Cell}
    {n : NotSingle} (hmany : field.HoldsMany n) (fault : QueryFault) :
    FieldFails options database field fault ↔ fault = .fieldNotSingle := by
  constructor
  · intro h
    cases h with
    | manyCells _ _ => rfl
    | errorCell _ hcell => exact absurd hcell hmany.not_amountsTo
    | emptyCell hcell _ => exact absurd hcell hmany.not_amountsTo
    | ordinal _ _ hcell _ _ => exact absurd hcell hmany.not_amountsTo
  · rintro rfl
    exact .manyCells n hmany

/-- The ways in which a field of one cell can fail. -/
theorem fieldFails_of_amountsTo (options : QueryOptions) (database : Block) {field c : Cell}
    (hcell : field.AmountsTo c) (fault : QueryFault) :
    FieldFails options database field fault ↔
      (∃ e, c = .error e ∧ fault = .fieldError e) ∨
        (c = .empty ∧ options.allowEmptyField = false ∧ fault = .fieldEmpty) ∨
        ∃ x, ordinal? c = some x ∧ ¬ NamesColumn database x ∧
          fault = .noSuchOrdinal x database.width := by
  constructor
  · intro h
    cases h with
    | manyCells _ hmany => exact absurd hcell hmany.not_amountsTo
    | errorCell e hother =>
      cases hcell.unique hother
      exact Or.inl ⟨e, rfl, rfl⟩
    | emptyCell hother hallow =>
      cases hcell.unique hother
      exact Or.inr (Or.inl ⟨rfl, hallow, rfl⟩)
    | ordinal _ x hother hordinal hnone =>
      cases hcell.unique hother
      exact Or.inr (Or.inr ⟨x, hordinal, hnone, rfl⟩)
  · rintro (⟨e, rfl, rfl⟩ | ⟨rfl, hallow, rfl⟩ | ⟨x, hordinal, hnone, rfl⟩)
    · exact .errorCell e hcell
    · exact .emptyCell hcell hallow
    · exact .ordinal c x hcell hordinal hnone

/-- Resolving a field fails exactly as the field fails on sight. -/
theorem resolve_eq_error_iff (options : QueryOptions) (database : Block) (field : Cell)
    (fault : QueryFault) :
    Field.resolve options (ofDatabase database) field = .error fault ↔
      FieldFails options database field fault := by
  unfold Field.resolve
  rcases field.amountsTo_or_holdsMany with ⟨c, hcell⟩ | ⟨n, hmany⟩
  · rw [fieldFails_of_amountsTo options database hcell, hcell.single_eq]
    cases c with
    | int i => simp [ordinal?, ofOrdinal_eq_error_iff]
    | number x => simp [ordinal?, ofOrdinal_eq_error_iff]
    | boolean b => simp [ordinal?, ofOrdinal_eq_error_iff]
    | text s =>
      cases hwhole : Decimal.wholeNumber? s with
      | none => simp [ordinal?, hwhole]
      | some x => simp [ordinal?, hwhole, ofOrdinal_eq_error_iff]
    | array rows => simp [ordinal?]
    | empty => cases hallow : options.allowEmptyField <;> simp [ordinal?, eq_comm]
    | error e => simpa [ordinal?] using eq_comm
  · rw [fieldFails_of_holdsMany options database hmany, hmany.single_eq]
    simp [eq_comm]

theorem resolve_of_not_fails {options : QueryOptions} {database : Block} {field : Cell}
    (h : ∀ fault, ¬ FieldFails options database field fault) :
    ∃ f, Field.resolve options (ofDatabase database) field = .ok f := by
  cases hresolve : Field.resolve options (ofDatabase database) field with
  | error fault => exact absurd ((resolve_eq_error_iff ..).mp hresolve) (h fault)
  | ok f => exact ⟨f, rfl⟩

theorem not_fieldFails_of_fieldAsks {options : QueryOptions} {database criteria : Block}
    {field : Cell} {header : String} (h : FieldAsks options database criteria field header)
    (fault : QueryFault) : ¬ FieldFails options database field fault := by
  intro hfails
  obtain ⟨f, hf, -⟩ := resolve_of_fieldAsks h
  rw [(resolve_eq_error_iff options database field fault).mpr hfails] at hf
  cases hf

/-! ### The output column -/

/-- Only an empty field leaves the choice of the column to the criteria. -/
theorem amountsTo_empty_iff_of_resolve {options : QueryOptions} {database : Block} {field : Cell}
    {f : Field} (hf : Field.resolve options (ofDatabase database) field = .ok f) :
    field.AmountsTo .empty ↔ f = .firstCriteriaHeader := by
  obtain ⟨c, hcell, hways⟩ := (resolve_eq_ok_iff ..).mp hf
  rw [← Cell.single_eq_ok_iff, hcell.single_eq]
  rcases hways with ⟨x, hordinal, hof⟩ | ⟨s, rfl, -, rfl⟩ | ⟨rows, rfl, rfl⟩ | ⟨rfl, -, rfl⟩
  · obtain ⟨column, -, -, -, rfl⟩ := (ofOrdinal_eq_ok_iff database x f).mp hof
    have hempty : c ≠ .empty := by
      rintro rfl
      cases hordinal
    simpa using hempty
  · simp
  · simp
  · simp

theorem header_eq_error_iff (criteria : Block) (f : Field) (fault : QueryFault) :
    f.header (ofCriteria criteria) = .error fault ↔
      f = .firstCriteriaHeader ∧ criteria.width = 0 ∧ fault = .noCriteriaHeader := by
  cases f with
  | named h => simp [Field.header]
  | firstCriteriaHeader =>
    rw [Field.header, headerAt?_ofCriteria]
    by_cases hwidth : 0 < criteria.width
    · simp [hwidth, hwidth.ne']
    · simp [Nat.eq_zero_of_not_pos hwidth, eq_comm]

section

variable (m : Matcher) (options : QueryOptions) (database : Block) (field : Cell)
  (criteria : Block)

/-- The record is selected, and its value under the header is kept. -/
def Survives (header : String) (record : Nat) : Prop :=
  IsSelected m database criteria record ∧
    (options.keepEmpty = true ∨ (valueUnder database header record).isEmpty = false)

/-- The selected records whose value under the header is kept, in their order. -/
def survivors (header : String) : List Nat :=
  (selectionMask m database criteria).selected.filter fun record ↦
    options.keepEmpty || !(valueUnder database header record).isEmpty

theorem mem_survivors (header : String) (record : Nat) :
    record ∈ survivors m options database criteria header ↔
      Survives m options database criteria header record := by
  rw [survivors, List.mem_filter, RowMask.mem_selected, selects_selectionMask, Survives]
  simp

theorem pairwise_survivors (header : String) :
    (survivors m options database criteria header).Pairwise (· < ·) :=
  (RowMask.pairwise_selected _).filter _

theorem selectedValues_eq_map_survivors (header : String) :
    selectedValues m options database criteria header =
      (survivors m options database criteria header).map (valueUnder database header) := by
  rw [selectedValues, survivors, List.filter_map]
  rfl

/-! ### The outcome that is due -/

/-- The field is accepted and the criteria do not come out empty. -/
def ReachesColumn : Prop :=
  (∀ fault, ¬ FieldFails options database field fault) ∧
    (Constrains database criteria → ∃ record, IsSelected m database criteria record)

/-- The outcomes of a query, those that go before others first. -/
inductive Outcome : Except CellError (Option (List Cell)) → Prop where
  | fieldFails (fault : QueryFault) (hfails : FieldFails options database field fault) :
      Outcome (.error fault.error)
  | noRecord (hfield : ∀ fault, ¬ FieldFails options database field fault)
      (hconstrains : Constrains database criteria)
      (hnone : ∀ record, ¬ IsSelected m database criteria record) : Outcome (.ok none)
  | noCriteriaHeader (hreaches : ReachesColumn m options database field criteria)
      (hempty : field.AmountsTo .empty) (hwidth : criteria.width = 0) :
      Outcome (.error ⟨.value, some "Empty field and no criteria header"⟩)
  | unknownHeader (hreaches : ReachesColumn m options database field criteria) (header : String)
      (hasks : FieldAsks options database criteria field header)
      (hunknown : header ∉ headers database) :
      Outcome (.error ⟨.value, some ("Field '" ++ header ++ "' not found in database headers")⟩)
  | nothingSurvives (hreaches : ReachesColumn m options database field criteria) (header : String)
      (hasks : FieldAsks options database criteria field header) (hmem : header ∈ headers database)
      (hnone : ∀ record, ¬ Survives m options database criteria header record) :
      Outcome (.error ⟨.division, some "No values survived the criteria"⟩)
  | values (hreaches : ReachesColumn m options database field criteria) (header : String)
      (hasks : FieldAsks options database criteria field header) (hmem : header ∈ headers database)
      (records : List Nat) (hsorted : records.Pairwise (· < ·))
      (hrecords : ∀ record, record ∈ records ↔
        Survives m options database criteria header record)
      (hsome : records ≠ []) :
      Outcome (.ok (some (records.map (valueUnder database header))))

variable {m options database field criteria}

theorem Outcome.ne_some_nil {r : Except CellError (Option (List Cell))}
    (h : Outcome m options database field criteria r) : r ≠ .ok (some []) := by
  cases h with
  | values _ _ _ _ records _ _ hsome => simpa using hsome
  | _ => exact fun h ↦ by cases h

/-- With blanks kept, every selected record survives. -/
theorem survives_of_keepEmpty (hkeep : options.keepEmpty = true) (header : String)
    (record : Nat) :
    Survives m options database criteria header record ↔ IsSelected m database criteria record :=
  and_iff_left (Or.inl hkeep)

theorem Outcome.of_selected (hkeep : options.keepEmpty = true) {header : String}
    (hasks : FieldAsks options database criteria field header) (hmem : header ∈ headers database)
    {records : List Nat} (hsorted : records.Pairwise (· < ·))
    (hrecords : ∀ record, record ∈ records ↔ IsSelected m database criteria record)
    (hsome : records ≠ []) :
    Outcome m options database field criteria
      (.ok (some (records.map (valueUnder database header)))) := by
  have hreaches : ReachesColumn m options database field criteria := by
    refine ⟨not_fieldFails_of_fieldAsks hasks, fun _ ↦ ?_⟩
    obtain ⟨record, hrecord⟩ := List.exists_mem_of_ne_nil records hsome
    exact ⟨record, (hrecords record).mp hrecord⟩
  refine .values hreaches header hasks hmem records hsorted (fun record ↦ ?_) hsome
  rw [hrecords, survives_of_keepEmpty hkeep]

theorem run_of_reachesColumn (hreaches : ReachesColumn m options database field criteria)
    {f : Field} (hf : Field.resolve options (ofDatabase database) field = .ok f) :
    Query.run m options database field criteria =
      some <$> Query.project options (ofDatabase database) (ofCriteria criteria) f
        (selectionMask m database criteria) :=
  run_eq_project m options database field criteria f hf hreaches.2

/-- The outcome that is due is the answer of the query. -/
theorem answer_of_outcome {r : Except CellError (Option (List Cell))}
    (h : Outcome m options database field criteria r) :
    (Query.run m options database field criteria).mapError QueryFault.error = r := by
  cases h with
  | fieldFails fault hfails =>
    rw [run_eq_error m options database field criteria fault
      ((resolve_eq_error_iff options database field fault).mpr hfails)]
    rfl
  | noRecord hfield hconstrains hnone =>
    obtain ⟨f, hf⟩ := resolve_of_not_fails hfield
    rw [run_eq_none m options database field criteria f hf hconstrains hnone]
    rfl
  | noCriteriaHeader hreaches hempty hwidth =>
    obtain ⟨f, hf⟩ := resolve_of_not_fails hreaches.1
    have hfirst := (amountsTo_empty_iff_of_resolve hf).mp hempty
    have hheader := (header_eq_error_iff criteria f _).mpr ⟨hfirst, hwidth, rfl⟩
    rw [run_of_reachesColumn hreaches hf, project_eq_headerFault _ hheader]
    rfl
  | unknownHeader hreaches header hasks hunknown =>
    obtain ⟨f, hf, hheader⟩ := resolve_of_fieldAsks hasks
    have hcolumn := column?_ofDatabase database header
    rw [if_neg hunknown] at hcolumn
    rw [run_of_reachesColumn hreaches hf, project_eq_noSuchHeader _ hheader hcolumn]
    rfl
  | nothingSurvives hreaches header hasks hmem hnone =>
    obtain ⟨f, hf, hheader⟩ := resolve_of_fieldAsks hasks
    have hnil : survivors m options database criteria header = [] :=
      List.eq_nil_iff_forall_not_mem.mpr fun record hrecord ↦
        hnone record ((mem_survivors m options database criteria header record).mp hrecord)
    rw [run_of_reachesColumn hreaches hf, project_eq_selectedValues m options hheader hmem,
      selectedValues_eq_map_survivors, hnil, List.map_nil, if_pos rfl]
    rfl
  | values hreaches header hasks hmem records hsorted hrecords hsome =>
    obtain ⟨f, hf, hheader⟩ := resolve_of_fieldAsks hasks
    have heq : survivors m options database criteria header = records :=
      (pairwise_survivors m options database criteria header).eq_of_mem_iff hsorted fun record ↦ by
        rw [mem_survivors, hrecords]
    have hne : ¬ records.map (valueUnder database header) = [] := by
      rwa [List.map_eq_nil_iff]
    rw [run_of_reachesColumn hreaches hf, project_eq_selectedValues m options hheader hmem,
      selectedValues_eq_map_survivors, heq, if_neg hne]
    rfl

variable (m options database field criteria)

/-- Some outcome is due, whatever the query is. -/
theorem exists_outcome : ∃ r, Outcome m options database field criteria r := by
  by_cases hfails : ∃ fault, FieldFails options database field fault
  · obtain ⟨fault, hfails⟩ := hfails
    exact ⟨_, .fieldFails fault hfails⟩
  have hfield := not_exists.mp hfails
  by_cases hselects : Constrains database criteria →
      ∃ record, IsSelected m database criteria record
  · have hreaches : ReachesColumn m options database field criteria := ⟨hfield, hselects⟩
    obtain ⟨f, hf⟩ := resolve_of_not_fails hfield
    cases hheader : f.header (ofCriteria criteria) with
    | error fault =>
      obtain ⟨hfirst, hwidth, -⟩ := (header_eq_error_iff criteria f fault).mp hheader
      have hempty := (amountsTo_empty_iff_of_resolve hf).mpr hfirst
      exact ⟨_, .noCriteriaHeader hreaches hempty hwidth⟩
    | ok header =>
      have hasks := fieldAsks_of_resolve hf hheader
      by_cases hmem : header ∈ headers database
      · by_cases hnil : survivors m options database criteria header = []
        · refine ⟨_, .nothingSurvives hreaches header hasks hmem fun record hrecord ↦ ?_⟩
          rw [← mem_survivors, hnil] at hrecord
          exact List.not_mem_nil hrecord
        · exact ⟨_, .values hreaches header hasks hmem _
            (pairwise_survivors m options database criteria header)
            (mem_survivors m options database criteria header) hnil⟩
      · exact ⟨_, .unknownHeader hreaches header hasks hmem⟩
  · rw [Classical.not_imp] at hselects
    exact ⟨_, .noRecord hfield hselects.1 (not_exists.mp hselects.2)⟩

theorem run_eq_ok_iff (found : Option (List Cell)) :
    Query.run m options database field criteria = .ok found ↔
      Outcome m options database field criteria (.ok found) := by
  constructor
  · intro hrun
    obtain ⟨r, hr⟩ := exists_outcome m options database field criteria
    have hanswer := answer_of_outcome hr
    rw [hrun] at hanswer
    cases hanswer
    exact hr
  · intro h
    have hanswer := answer_of_outcome h
    cases hrun : Query.run m options database field criteria with
    | error fault =>
      rw [hrun] at hanswer
      cases hanswer
    | ok other =>
      rw [hrun] at hanswer
      cases hanswer
      rfl

/-- A query has the outcome that is due and no other. An answer with values has at least one. -/
theorem answer_iff_outcome :
    (∀ r, (Query.run m options database field criteria).mapError QueryFault.error = r ↔
        Outcome m options database field criteria r) ∧
      Query.run m options database field criteria ≠ .ok (some []) := by
  obtain ⟨due, hdue⟩ := exists_outcome m options database field criteria
  have hanswer := answer_of_outcome hdue
  refine ⟨fun r ↦ ⟨?_, answer_of_outcome⟩, fun hrun ↦ ?_⟩
  · rintro rfl
    rwa [hanswer]
  · rw [hrun] at hanswer
    exact hdue.ne_some_nil hanswer.symm

end

end Worksheet.Database
