import Worksheet.Proofs.Database.BlockForms
import Worksheet.Proofs.Database.CoalescedColumns
import Worksheet.Proofs.Database.Outcomes
import Worksheet.Proofs.Decimal.ExactValue

/-!
Fields that count the columns of a database.

A field that reads as a number counts the columns from one (`CountsBy`). When its exact value is the
place of a header (`IsPlaceOf`), the query answers as it answers to the header itself; otherwise the
field names no column (`NamesNoColumn`) and the query fails before any record is tested
(`ordinals_agree_with_headers`). Looking the column up with machine words, the number being cut off
to a word and one taken from it, gives the same answer and never leaves the words
(`wordLookup_ofOrdinal`).
-/

set_option autoImplicit false
set_option relaxedAutoImplicit false

namespace Worksheet.Database

open Worksheet.Criteria HeaderIndex Decimal

/-- The field is one cell, an integer, a double, a text that is a number or a truth value, and
reads as this number. -/
def CountsBy (field : Cell) (x : Float) : Prop :=
  ∃ c, field.AmountsTo c ∧ ordinal? c = some x

/-- The number is the place of a column that keeps the header, counted from one. -/
def IsPlaceOf (b : Block) (header : String) (x : Float) : Prop :=
  ∃ column, (ofDatabase b).headerAt? column = some header ∧ x.isFinite = true ∧
    exactValue x = column + 1

/-- The ways in which a number fails to be the place of a header. -/
inductive NamesNoColumn (b : Block) (x : Float) : Prop where
  | notFinite (hfinite : x.isFinite = false)
  | fraction (hfinite : x.isFinite = true) (hvalue : ∀ n : ℤ, exactValue x ≠ n)
  | belowOne (hfinite : x.isFinite = true) (hvalue : exactValue x < 1)
  | beyondWidth (hfinite : x.isFinite = true) (hvalue : b.width < exactValue x)
  | repeatedHeader (column earlier : Nat) (hfinite : x.isFinite = true)
      (hvalue : exactValue x = column + 1) (hwidth : column < b.width)
      (hearlier : earlier < column) (hsame : headerText b earlier = headerText b column)

/-! ### Places -/

theorem toNat?_eq_some_succ_iff (x : Float) (column : Nat) :
    toNat? x = some (column + 1) ↔ x.isFinite = true ∧ exactValue x = column + 1 := by
  rw [toNat?_eq_some_iff, Nat.cast_succ]

/-- A whole number from one on is a place. -/
theorem exists_place {x : Float} (hwhole : ∃ n : ℤ, exactValue x = n) (hone : 1 ≤ exactValue x) :
    ∃ column : Nat, exactValue x = column + 1 := by
  obtain ⟨n, hn⟩ := hwhole
  have hone' : 1 ≤ n := by
    rw [hn] at hone
    exact_mod_cast hone
  obtain ⟨column, hcolumn⟩ := Int.eq_ofNat_of_zero_le (show 0 ≤ n - 1 by omega)
  refine ⟨column, ?_⟩
  rw [hn, show n = (column : ℤ) + 1 by omega]
  push_cast
  rfl

theorem namesColumn_iff (b : Block) (x : Float) :
    NamesColumn b x ↔ ∃ header, IsPlaceOf b header x := by
  constructor
  · rintro ⟨column, hnat, hwidth, hfirst⟩
    refine ⟨headerText b column, column, ?_, (toNat?_eq_some_succ_iff x column).mp hnat⟩
    rw [headerAt?_ofDatabase]
    exact if_pos ⟨hwidth, hfirst⟩
  · rintro ⟨header, column, hheader, hplace⟩
    obtain ⟨hwidth, rfl, hfirst⟩ := (headerAt?_ofDatabase_eq_some_iff b column header).mp hheader
    exact ⟨column, (toNat?_eq_some_succ_iff x column).mpr hplace, hwidth,
      (not_mem_map_range_iff b column _).mpr hfirst⟩

theorem not_isPlaceOf_of_namesNoColumn {b : Block} {x : Float} (h : NamesNoColumn b x)
    (header : String) : ¬ IsPlaceOf b header x := by
  rintro ⟨column, hheader, hfinite, hplace⟩
  obtain ⟨hwidth, hcolumn, hfirst⟩ := (headerAt?_ofDatabase_eq_some_iff b column header).mp hheader
  cases h with
  | notFinite hnot =>
    rw [hfinite] at hnot
    cases hnot
  | fraction _ hvalue =>
    refine hvalue (column + 1) ?_
    rw [hplace]
    push_cast
    rfl
  | belowOne _ hvalue =>
    rw [hplace] at hvalue
    have hnonneg : (0 : ℚ) ≤ column := column.cast_nonneg
    linarith
  | beyondWidth _ hvalue =>
    rw [hplace] at hvalue
    have hlt : b.width < column + 1 := by exact_mod_cast hvalue
    omega
  | repeatedHeader other earlier _ hvalue _ hearlier hsame =>
    rw [hplace] at hvalue
    have heq : column = other := by exact_mod_cast add_right_cancel hvalue
    rw [← heq] at hearlier hsame
    exact hfirst earlier hearlier (hsame.trans hcolumn)

theorem isPlaceOf_or_namesNoColumn (b : Block) (x : Float) :
    (∃ header, IsPlaceOf b header x) ∨ NamesNoColumn b x := by
  cases hfinite : x.isFinite with
  | false => exact Or.inr (.notFinite hfinite)
  | true =>
    by_cases hbelow : exactValue x < 1
    · exact Or.inr (.belowOne hfinite hbelow)
    by_cases hwhole : ∃ n : ℤ, exactValue x = n
    · obtain ⟨column, hplace⟩ := exists_place hwhole (not_lt.mp hbelow)
      by_cases hwidth : column < b.width
      · by_cases hfirst : ∃ earlier < column, headerText b earlier = headerText b column
        · obtain ⟨earlier, hearlier, hsame⟩ := hfirst
          exact Or.inr (.repeatedHeader column earlier hfinite hplace hwidth hearlier hsame)
        · push Not at hfirst
          refine Or.inl ⟨headerText b column, column, ?_, hfinite, hplace⟩
          exact (headerAt?_ofDatabase_eq_some_iff b column _).mpr ⟨hwidth, rfl, hfirst⟩
      · refine Or.inr (.beyondWidth hfinite ?_)
        rw [hplace]
        exact_mod_cast Nat.lt_succ_of_le (Nat.le_of_not_lt hwidth)
    · exact Or.inr (.fraction hfinite (not_exists.mp hwhole))

theorem namesNoColumn_iff (b : Block) (x : Float) :
    NamesNoColumn b x ↔ ¬ ∃ header, IsPlaceOf b header x := by
  constructor
  · rintro h ⟨header, hplace⟩
    exact not_isPlaceOf_of_namesNoColumn h header hplace
  · exact (isPlaceOf_or_namesNoColumn b x).resolve_left

/-! ### Resolving a number -/

theorem countsBy_of_ordinal? {c : Cell} {x : Float} (h : ordinal? c = some x) :
    CountsBy c x ∧ CountsBy (.array [[c]]) x := by
  have hplain : ∀ rows, c ≠ .array rows := by
    rintro rows rfl
    cases h
  exact ⟨⟨c, .itself c hplain, h⟩, ⟨c, .oneCell c, h⟩⟩

theorem resolve_of_countsBy {field : Cell} {x : Float} (h : CountsBy field x)
    (options : QueryOptions) (data : HeaderIndex) :
    Field.resolve options data field = Field.ofOrdinal data x := by
  obtain ⟨c, hcell, hordinal⟩ := h
  unfold Field.resolve
  rw [hcell.single_eq]
  cases c with
  | int i => cases hordinal; rfl
  | number y => cases hordinal; rfl
  | text s =>
    have hwhole : wholeNumber? s = some x := hordinal
    simp only [hwhole]
  | boolean b => cases hordinal; rfl
  | array rows => cases hordinal
  | empty => cases hordinal
  | error e => cases hordinal

theorem resolve_text {header : String} (h : wholeNumber? header = none) (options : QueryOptions)
    (data : HeaderIndex) : Field.resolve options data (.text header) = .ok (.named header) :=
  (resolve_eq_ok_iff ..).mpr ⟨.text header, .itself _ nofun, Or.inr (Or.inl ⟨header, rfl, h, rfl⟩)⟩

theorem ofOrdinal_of_isPlaceOf {b : Block} {header : String} {x : Float}
    (h : IsPlaceOf b header x) : Field.ofOrdinal (ofDatabase b) x = .ok (.named header) := by
  obtain ⟨column, hheader, hplace⟩ := h
  rw [Field.ofOrdinal, (toNat?_eq_some_succ_iff x column).mpr hplace]
  dsimp only
  rw [hheader]

theorem ofOrdinal_of_namesNoColumn {b : Block} {x : Float} (h : NamesNoColumn b x) :
    Field.ofOrdinal (ofDatabase b) x = .error (.noSuchOrdinal x b.width) := by
  refine (ofOrdinal_eq_error_iff b x _).mpr ⟨?_, rfl⟩
  rw [namesColumn_iff]
  exact (namesNoColumn_iff b x).mp h

theorem run_of_resolve_eq (m : Matcher) (options : QueryOptions) (database criteria : Block)
    {field field' : Cell}
    (h : Field.resolve options (ofDatabase database) field =
      Field.resolve options (ofDatabase database) field') :
    Query.run m options database field criteria = Query.run m options database field' criteria := by
  rw [Query.run, Query.run, h]

/-! ### Machine words -/

/-- The fractional part of the number is zero; an infinite double has none. -/
def IsWhole (x : Float) : Prop := x.isFinite = true ∧ ∃ n : ℤ, exactValue x = n

/-- The look-up of a column with machine words. A whole number from one on is cut off to a word, and
the word before it is the index; no word stands before zero. -/
inductive WordLookup (data : HeaderIndex) (x : Float) : Except QueryFault Field → Prop where
  | found (header : String) (hwhole : IsWhole x) (hone : 1.0 ≤ x) (hword : 1 ≤ x.toUSize)
      (hindex : (x.toUSize - 1).toNat < data.width)
      (hheader : data.headerAt? (x.toUSize - 1).toNat = some header) :
      WordLookup data x (.ok (.named header))
  | missing (hwhole : IsWhole x) (hone : 1.0 ≤ x) (hword : 1 ≤ x.toUSize)
      (hheader : data.headerAt? (x.toUSize - 1).toNat = none) :
      WordLookup data x (.error (.noSuchOrdinal x data.width))
  | refused (hrefused : ¬ (IsWhole x ∧ 1.0 ≤ x)) :
      WordLookup data x (.error (.noSuchOrdinal x data.width))

theorem isWhole_and_one_le_iff (x : Float) :
    IsWhole x ∧ 1.0 ≤ x ↔ ∃ column, toNat? x = some (column + 1) := by
  simp only [toNat?_eq_some_succ_iff]
  constructor
  · rintro ⟨⟨hfinite, hwhole⟩, hone⟩
    obtain ⟨column, hplace⟩ := exists_place hwhole ((one_le_iff hfinite).mp hone)
    exact ⟨column, hfinite, hplace⟩
  · rintro ⟨column, hfinite, hplace⟩
    refine ⟨⟨hfinite, column + 1, ?_⟩, (one_le_iff hfinite).mpr ?_⟩
    · rw [hplace]
      push_cast
      rfl
    · rw [hplace]
      exact le_add_of_nonneg_left column.cast_nonneg

/-- The word of a whole number is the number, or the last word. -/
theorem toNat_toUSize_sub_one {x : Float} {column : Nat} (h : toNat? x = some (column + 1)) :
    1 ≤ x.toUSize ∧ (x.toUSize - 1).toNat = min column (USize.size - 2) := by
  have hsize : 2 ^ 32 ≤ USize.size := USize.le_size
  have hword : x.toUSize.toNat = min (column + 1) (USize.size - 1) := by
    rw [toNat_toUSize (isFinite_of_toNat? h), exactValue_of_toNat? h, Nat.floor_natCast]
  have hone : (1 : USize) ≤ x.toUSize := by
    rw [USize.le_iff_toNat_le, hword, USize.toNat_one]
    omega
  refine ⟨hone, ?_⟩
  rw [USize.toNat_sub_of_le _ _ hone, hword, USize.toNat_one]
  omega

/-- A row in memory has fewer cells than there are words, so every column has its word. -/
theorem wordLookup_ofOrdinal {b : Block} (hwidth : b.width + 1 < USize.size) (x : Float) :
    WordLookup (ofDatabase b) x (Field.ofOrdinal (ofDatabase b) x) := by
  by_cases hguard : IsWhole x ∧ 1.0 ≤ x
  · obtain ⟨column, hnat⟩ := (isWhole_and_one_le_iff x).mp hguard
    obtain ⟨hone, hindex⟩ := toNat_toUSize_sub_one hnat
    -- A number beyond the words and the last word are both beyond the columns.
    have hsame : (ofDatabase b).headerAt? (x.toUSize - 1).toNat =
        (ofDatabase b).headerAt? column := by
      by_cases hfits : column ≤ USize.size - 2
      · rw [hindex, Nat.min_eq_left hfits]
      · rw [headerAt?_of_width_le, headerAt?_of_width_le] <;> rw [width_ofDatabase] <;> omega
    rw [Field.ofOrdinal, hnat]
    dsimp only
    cases hheader : (ofDatabase b).headerAt? column with
    | none => exact .missing hguard.1 hguard.2 hone (hsame.trans hheader)
    | some header =>
      refine .found header hguard.1 hguard.2 hone ?_ (hsame.trans hheader)
      by_contra hbeyond
      have hnone := headerAt?_of_width_le _ _ (Nat.le_of_not_lt hbeyond)
      rw [hsame, hheader] at hnone
      cases hnone
  · have hnone : ¬ NamesColumn b x := by
      rintro ⟨column, hnat, -, -⟩
      exact hguard ((isWhole_and_one_le_iff x).mpr ⟨column, hnat⟩)
    rw [(ofOrdinal_eq_error_iff b x _).mpr ⟨hnone, rfl⟩, ← width_ofDatabase]
    exact .refused hguard

/-! ### The answers -/

/-- What the queries of one database and one criteria block owe to the fields that are numbers. -/
structure OrdinalFields (m : Matcher) (options : QueryOptions) (database criteria : Block) :
    Prop where
  named_alike : ∀ field x header, CountsBy field x → IsPlaceOf database header x →
    wholeNumber? header = none →
      Query.run m options database field criteria =
        Query.run m options database (.text header) criteria
  refused : ∀ field x, CountsBy field x → NamesNoColumn database x →
    Query.run m options database field criteria = .error (.noSuchOrdinal x database.width) ∧
      (QueryFault.noSuchOrdinal x database.width).error.kind = .value
  refused_iff : ∀ x, NamesNoColumn database x ↔ ¬ ∃ header, IsPlaceOf database header x
  int : ∀ i : Int64, 0 ≤ i.toInt → i.toInt < 2 ^ 53 →
    CountsBy (.int i) (floatOfInt i) ∧ (floatOfInt i).isFinite = true ∧
      exactValue (floatOfInt i) = i.toInt
  truth : CountsBy (.boolean true) 1.0 ∧ (1.0 : Float).isFinite = true ∧ exactValue 1.0 = 1
  block : ∀ c x, ordinal? c = some x → CountsBy c x ∧ CountsBy (.array [[c]]) x
  words : database.width + 1 < USize.size → ∀ x,
    WordLookup (ofDatabase database) x (Field.ofOrdinal (ofDatabase database) x)

/-- A place and the header at that place select the same column, and a number that is no place is
refused whatever the criteria are. -/
theorem ordinals_agree_with_headers (m : Matcher) (options : QueryOptions)
    (database criteria : Block) : OrdinalFields m options database criteria where
  named_alike field x header hfield hplace hheader := by
    apply run_of_resolve_eq
    rw [resolve_of_countsBy hfield, resolve_text hheader, ofOrdinal_of_isPlaceOf hplace]
  refused field x hfield hnone := by
    refine ⟨run_eq_error m options database field criteria _ ?_, rfl⟩
    rw [resolve_of_countsBy hfield, ofOrdinal_of_namesNoColumn hnone]
  refused_iff := namesNoColumn_iff database
  int i hnonneg hlt :=
    ⟨(countsBy_of_ordinal? rfl).1, exactValue_floatOfInt hnonneg hlt⟩
  truth := by
    have hnat : toNat? 1.0 = some 1 := by decide +kernel
    refine ⟨(countsBy_of_ordinal? rfl).1, isFinite_of_toNat? hnat, ?_⟩
    rw [exactValue_of_toNat? hnat, Nat.cast_one]
  block c x h := countsBy_of_ordinal? h
  words hwidth x := wordLookup_ofOrdinal hwidth x

/-- A row of headers, the last of them a repeated one. -/
def repeatedHeaders : Block := .owned [[.text "Tree", .text "Age", .text "Tree"]]

/-- The second column keeps its header, and the third repeats the first. -/
theorem fields_of_repeatedHeaders :
    (CountsBy (.array [[.number 2.0]]) 2.0 ∧ IsPlaceOf repeatedHeaders "Age" 2.0 ∧
        wholeNumber? "Age" = none ∧
        Query.run (Matcher.standard {}) {} repeatedHeaders (.array [[.number 2.0]])
            repeatedHeaders =
          Query.run (Matcher.standard {}) {} repeatedHeaders (.text "Age") repeatedHeaders) ∧
      (CountsBy (.number 3.0) 3.0 ∧ NamesNoColumn repeatedHeaders 3.0 ∧
        Query.run (Matcher.standard {}) {} repeatedHeaders (.number 3.0) repeatedHeaders =
          .error (.noSuchOrdinal 3.0 3)) ∧
      (0 ≤ (3 : Int64).toInt ∧ (3 : Int64).toInt < 2 ^ 53 ∧
        CountsBy (.int 3) (floatOfInt 3) ∧ exactValue (floatOfInt 3) = (3 : Int64).toInt) ∧
      (repeatedHeaders.width + 1 < USize.size ∧
        WordLookup (ofDatabase repeatedHeaders) 3.0
          (Field.ofOrdinal (ofDatabase repeatedHeaders) 3.0)) := by
  have htwo : toNat? 2.0 = some 2 := by decide +kernel
  have hthree : toNat? 3.0 = some 3 := by decide +kernel
  have hfields := ordinals_agree_with_headers (Matcher.standard {}) {} repeatedHeaders
    repeatedHeaders
  have hcounts : CountsBy (.array [[.number 2.0]]) 2.0 := (hfields.block (.number 2.0) 2.0 rfl).2
  have hplace : IsPlaceOf repeatedHeaders "Age" 2.0 :=
    ⟨1, rfl, (toNat?_eq_some_succ_iff 2.0 1).mp htwo⟩
  have hname : wholeNumber? "Age" = none := by decide +kernel
  have hcounts' : CountsBy (.number 3.0) 3.0 := (hfields.block (.number 3.0) 3.0 rfl).1
  have hnone : NamesNoColumn repeatedHeaders 3.0 := by
    obtain ⟨hfinite, hvalue⟩ := (toNat?_eq_some_succ_iff 3.0 2).mp hthree
    exact .repeatedHeader 2 0 hfinite hvalue (by decide) (by decide) rfl
  have hwidth : repeatedHeaders.width + 1 < USize.size := by
    rcases USize.size_eq with hsize | hsize <;> rw [hsize] <;> decide
  have hnonneg : 0 ≤ (3 : Int64).toInt := by decide
  have hlt : (3 : Int64).toInt < 2 ^ 53 := by decide
  obtain ⟨hint, -, hvalue⟩ := hfields.int 3 hnonneg hlt
  exact ⟨⟨hcounts, hplace, hname, hfields.named_alike _ _ _ hcounts hplace hname⟩,
    ⟨hcounts', hnone, (hfields.refused _ _ hcounts' hnone).1⟩, ⟨hnonneg, hlt, hint, hvalue⟩,
    hwidth, hfields.words hwidth 3.0⟩

end Worksheet.Database
