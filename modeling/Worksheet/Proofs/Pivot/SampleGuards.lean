import Worksheet.Proofs.Decimal.NearestDouble
import Worksheet.Proofs.Pivot.RecordedErrors

/-!
Which cell a finished accumulator shows, by kind.

The variance of too few numbers is set to zero, so that it can always be asked for; `quotient` is
what it is without that. A kind that divides reports a division by zero exactly below the numbers it
needs, and the number that it shows otherwise is the quotient (`cell_of_no_error`). The presence
counts pass over errors and show the count itself (`cell_of_presenceCount`). Both hold of every
finished accumulator; `materialize_by_kind` puts them together for those that a run ends with, kind
by kind with its need.
-/

set_option autoImplicit false
set_option relaxedAutoImplicit false

namespace Worksheet.Pivot

namespace Kind

theorem resolve_of_conflict (base field : Kind) {row column : Kind} (hrow : row.isOverride = true)
    (hcolumn : column.isOverride = true) (hne : row ≠ column) :
    resolve base field row column = blank := by
  simp [resolve, hrow, hcolumn, hne]

theorem neededNumbers_of_presenceCount {kind : Kind} (h : kind.isPresenceCount = true) :
    kind.neededNumbers = 0 := by
  cases kind with
  | count | countA => rfl
  | _ => cases h

/-- The kinds that divide, each with the numbers it needs. -/
theorem needs_of_mem {kind : Kind} {need : Nat}
    (h : (kind, need) ∈ [(average, 1), (stdDevP, 1), (varP, 1), (stdDev, 2), (var, 2)]) :
    kind.needsDivision = true ∧ kind.neededNumbers = need := by
  have hall : ∀ p ∈ [(average, 1), (stdDevP, 1), (varP, 1), (stdDev, 2), (var, 2)],
      p.1.needsDivision = true ∧ p.1.neededNumbers = p.2 := by decide
  exact hall (kind, need) h

end Kind

namespace Summary

variable {base field row column : Kind}

/-- The number of a kind as it is computed, with nothing set in its place for a small sample. -/
def quotient (s : Summary) : Kind → Float
  | .var => s.stats.spread / Float.ofNat (s.stats.numbers.toNat - 1)
  | .varP => s.stats.spread / Float.ofNat s.stats.numbers.toNat
  | .stdDev => (s.stats.spread / Float.ofNat (s.stats.numbers.toNat - 1)).sqrt
  | .stdDevP => (s.stats.spread / Float.ofNat s.stats.numbers.toNat).sqrt
  | kind => s.number kind

/-- With the numbers that a kind needs, no guard takes effect. -/
theorem number_eq_quotient (s : Summary) {kind : Kind}
    (hneeded : kind.neededNumbers ≤ s.stats.numbers.toNat) : s.number kind = s.quotient kind := by
  have hsample (h : 2 ≤ s.stats.numbers.toNat) :
      s.stats.sampleVariance = s.stats.spread / Float.ofNat (s.stats.numbers.toNat - 1) := if_pos h
  have hpopulation (h : 1 ≤ s.stats.numbers.toNat) :
      s.stats.populationVariance = s.stats.spread / Float.ofNat s.stats.numbers.toNat := if_pos h
  cases kind with
  | var => exact hsample hneeded
  | varP => exact hpopulation hneeded
  | stdDev => exact congrArg Float.sqrt (hsample hneeded)
  | stdDevP => exact congrArg Float.sqrt (hpopulation hneeded)
  | _ => rfl

theorem cell_of_no_error (s : Summary) (herror : s.stats.error = none) (kind : Kind) :
    s.cell kind =
      if s.stats.numbers.toNat < kind.neededNumbers then .error ⟨.division, none⟩
      else .number (s.quotient kind) := by
  unfold cell
  rw [herror]
  dsimp only
  by_cases hfew : s.stats.numbers.toNat < kind.neededNumbers
  · rw [if_pos hfew, if_pos hfew]
  · rw [if_neg hfew, if_neg hfew, s.number_eq_quotient (Nat.not_lt.mp hfew)]

theorem cell_of_presenceCount (s : Summary) {kind : Kind} (h : kind.isPresenceCount = true) :
    s.cell kind = .number (s.number kind) := by
  unfold cell
  rw [h, Kind.neededNumbers_of_presenceCount h, if_neg (Nat.not_lt_zero _)]
  split
  · next hfalse => cases hfalse
  · rfl

theorem materialize_of_blank (s : Summary) (h : Kind.resolve base field row column = .blank) :
    s.materialize base field row column = none := by
  unfold materialize
  rw [h]
  exact ite_self none

end Summary

namespace Run

/-- The cell shows the double nearest to a count, the count itself up to 53 binary digits. -/
def ShowsCount (n : Nat) (shown : Option Cell) : Prop :=
  shown = some (.number (Float.ofNat n)) ∧
    (n < 2 ^ 53 → Decimal.exactValue (Float.ofNat n) = n)

section

variable (r : Run) {base field row column : Kind}

/-- A presence count is left out or is shown, error or not. -/
theorem showsCount_of_presenceCount
    (hpresence : (Kind.resolve base field row column).isPresenceCount = true) {n : Nat}
    (hn : r.accumulator.finalize.number (Kind.resolve base field row column) = Float.ofNat n) :
    (¬r.accumulator.HasValue ∧
        r.accumulator.finalize.materialize base field row column = none) ∨
      (r.accumulator.HasValue ∧
        ShowsCount n (r.accumulator.finalize.materialize base field row column)) := by
  by_cases hvalue : r.accumulator.HasValue
  · have hblank : Kind.resolve base field row column ≠ .blank := by
      intro hblank
      rw [hblank] at hpresence
      cases hpresence
    refine Or.inr ⟨hvalue, ?_, fun hlt ↦ (Decimal.exactValue_ofNat hlt).2⟩
    rw [r.accumulator.finalize.materialize_of_not_blank hvalue hblank,
      Summary.cell_of_presenceCount _ hpresence, hn]
  · exact Or.inl ⟨hvalue, Summary.materialize_of_not_hasValue _ base field row column hvalue⟩

/-- A kind that divides reports a small sample, and otherwise shows its quotient. -/
theorem materialize_of_divides {kind : Kind} (hkind : Kind.resolve base field row column = kind)
    (hdivides : kind.needsDivision = true) (hvalue : r.accumulator.HasValue)
    (herror : r.accumulator.error = none) :
    r.accumulator.finalize.materialize base field row column =
      some (if r.accumulator.numbers.toNat < kind.neededNumbers then .error ⟨.division, none⟩
        else .number (r.accumulator.finalize.quotient kind)) := by
  subst hkind
  have hblank : Kind.resolve base field row column ≠ .blank := by
    intro hblank
    rw [hblank] at hdivides
    cases hdivides
  rw [r.accumulator.finalize.materialize_of_not_blank hvalue hblank]
  exact congrArg some (Summary.cell_of_no_error _ herror _)

end

/-- Row and column overrides that disagree leave the cell out. A presence count is shown as it
stands, whatever was recorded, or is left out where the accumulator has no value. With a value and
without an error, a kind that divides shows a division by zero exactly if fewer numbers were taken
than it needs, and it shows a number exactly if there are enough, which is then the quotient. -/
theorem materialize_by_kind (r : Run) (base field row column : Kind) :
    (row.isOverride = true → column.isOverride = true → row ≠ column →
        r.accumulator.finalize.materialize base field row column = none) ∧
      (Kind.resolve base field row column = .count →
        (¬r.accumulator.HasValue ∧
            r.accumulator.finalize.materialize base field row column = none) ∨
          (r.accumulator.HasValue ∧ ShowsCount r.accumulator.numbers.toNat
            (r.accumulator.finalize.materialize base field row column))) ∧
      (Kind.resolve base field row column = .countA →
        (¬r.accumulator.HasValue ∧
            r.accumulator.finalize.materialize base field row column = none) ∨
          (r.accumulator.HasValue ∧ ShowsCount r.accumulator.count.toNat
            (r.accumulator.finalize.materialize base field row column))) ∧
      ∀ kind need,
        (kind, need) ∈ [(Kind.average, 1), (.stdDevP, 1), (.varP, 1), (.stdDev, 2), (.var, 2)] →
        Kind.resolve base field row column = kind → r.accumulator.HasValue →
        r.accumulator.error = none →
          (r.accumulator.finalize.materialize base field row column =
              some (.error ⟨.division, none⟩) ↔ r.accumulator.numbers.toNat < need) ∧
          ∀ x, r.accumulator.finalize.materialize base field row column = some (.number x) ↔
            need ≤ r.accumulator.numbers.toNat ∧ r.accumulator.finalize.quotient kind = x := by
  refine ⟨fun hrow hcolumn hne ↦ ?_, fun hkind ↦ ?_, fun hkind ↦ ?_,
    fun kind need hmem hkind hvalue herror ↦ ?_⟩
  · exact Summary.materialize_of_blank _ (Kind.resolve_of_conflict base field hrow hcolumn hne)
  · exact r.showsCount_of_presenceCount (by rw [hkind]; rfl) (by rw [hkind]; rfl)
  · exact r.showsCount_of_presenceCount (by rw [hkind]; rfl) (by rw [hkind]; rfl)
  · obtain ⟨hdivides, rfl⟩ := Kind.needs_of_mem hmem
    rw [r.materialize_of_divides hkind hdivides hvalue herror]
    by_cases hfew : r.accumulator.numbers.toNat < kind.neededNumbers
    · simp [hfew]
    · simp [hfew, Nat.not_lt.mp hfew]

/-- A number that was added behind a reset, which forgot an error, and a text that was merged in. -/
def oneNumber : Run :=
  merge (add (reset (addError empty .value)) 7.0) (addCell empty (.text "x"))

/-- One number is enough for the variance of a population and too few for that of a sample. -/
theorem materialize_oneNumber :
    ((Kind.max.isOverride = true ∧ Kind.min.isOverride = true ∧ Kind.max ≠ .min) ∧
        Kind.resolve .sum .countA .grand .max = .countA ∧
        Kind.resolve .sum .standard .var .var = .var ∧ oneNumber.accumulator.HasValue ∧
        oneNumber.accumulator.error = none) ∧
      oneNumber.accumulator.finalize.materialize .sum .standard .max .min = none ∧
      ShowsCount 2 (oneNumber.accumulator.finalize.materialize .sum .countA .grand .max) ∧
      oneNumber.accumulator.finalize.materialize .sum .standard .var .var =
        some (.error ⟨.division, none⟩) := by
  have hvalue : oneNumber.accumulator.HasValue := Or.inl rfl
  have hconflict : Kind.max ≠ .min := by decide
  refine ⟨⟨⟨rfl, rfl, hconflict⟩, rfl, rfl, hvalue, rfl⟩, ?_, ?_, ?_⟩
  · exact (materialize_by_kind oneNumber .sum .standard .max .min).1 rfl rfl hconflict
  · obtain ⟨hnone, -⟩ | ⟨-, hshown⟩ :=
      (materialize_by_kind oneNumber .sum .countA .grand .max).2.2.1 rfl
    · exact absurd hvalue hnone
    · exact hshown
  · exact ((materialize_by_kind oneNumber .sum .standard .var .var).2.2.2 .var 2 (by decide) rfl
      hvalue rfl).1.mpr (by decide)

end Run

end Worksheet.Pivot
