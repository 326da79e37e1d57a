import Worksheet.Proofs.Database.Masks

/-!
Runs of steps on a mask, with masks of any sizes.

A step decides some rows and leaves the others: to intersect clears the rows that the other mask
covers without selecting them, and to unite selects the rows that it selects. One step is described
by its decision (`getElem?_apply`), and the description carries over to a run, in which the last
decision on a row stands (`getElem?_run`). The masks need not be of one size: the rows beyond a
shorter one are left as they are, and those that only a longer one has are never entered.
-/

set_option autoImplicit false
set_option relaxedAutoImplicit false

namespace Worksheet.Database.RowMask

inductive Step where
  | intersect (other : RowMask)
  | unite (other : RowMask)
  deriving DecidableEq, Repr

namespace Step

def apply (m : RowMask) : Step → RowMask
  | intersect other => m.and other
  | unite other => m.or other

/-- What the step makes of a row, if it does not leave it as it is. -/
def decision? (row : Nat) : Step → Option Bool
  | intersect other => if other.flags[row]? = some false then some false else Option.none
  | unite other => if other.flags[row]? = some true then some true else Option.none

end Step

def run (m : RowMask) (steps : List Step) : RowMask := steps.foldl Step.apply m

/-- The last decision of the steps on a row. -/
def lastDecision? (steps : List Step) (row : Nat) : Option Bool :=
  (steps.filterMap (Step.decision? row)).getLast?

/-! ### One step -/

theorem size_apply (m : RowMask) (step : Step) : (step.apply m).size = m.size := by
  cases step with
  | intersect other => exact size_and m other
  | unite other => exact size_or m other

theorem getElem?_apply (m : RowMask) (step : Step) (row : Nat) :
    (step.apply m).flags[row]? =
      m.flags[row]?.map fun flag ↦ (step.decision? row).getD flag := by
  cases step with
  | intersect other =>
    refine (getElem?_combine _ m.flags other.flags row).trans ?_
    congr 1
    funext flag
    cases h : other.flags[row]? with
    | none => simp [Step.decision?, h]
    | some chosen => cases chosen <;> simp [Step.decision?, h]
  | unite other =>
    refine (getElem?_combine _ m.flags other.flags row).trans ?_
    congr 1
    funext flag
    cases h : other.flags[row]? with
    | none => simp [Step.decision?, h]
    | some chosen => cases chosen <;> simp [Step.decision?, h]

/-! ### A run -/

theorem size_run (m : RowMask) (steps : List Step) : (m.run steps).size = m.size :=
  size_foldl Step.apply size_apply steps m

theorem lastDecision?_cons (step : Step) (steps : List Step) (row : Nat) :
    lastDecision? (step :: steps) row = (lastDecision? steps row).or (step.decision? row) := by
  unfold lastDecision?
  cases h : step.decision? row with
  | none => simp [h]
  | some flag => simp [h, List.getLast?_cons]

/-- The flag that a run starts with stays when no step decides on the row. -/
theorem getElem?_run (m : RowMask) (steps : List Step) (row : Nat) :
    (m.run steps).flags[row]? =
      m.flags[row]?.map fun flag ↦ (lastDecision? steps row).getD flag := by
  induction steps generalizing m with
  | nil => simp [run, lastDecision?]
  | cons step steps ih =>
    have hrun : m.run (step :: steps) = (step.apply m).run steps := rfl
    rw [hrun, ih, getElem?_apply, Option.map_map]
    congr 1
    funext flag
    rw [lastDecision?_cons]
    cases lastDecision? steps row <;> rfl

theorem selects_run (m : RowMask) (steps : List Step) (row : Nat) :
    (m.run steps).Selects row ↔
      (lastDecision? steps row = Option.none ∧ m.Selects row) ∨
        (lastDecision? steps row = some true ∧ row < m.size) := by
  unfold Selects
  rw [getElem?_run, Option.map_eq_some_iff]
  cases lastDecision? steps row with
  | none => simp
  | some flag =>
    constructor
    · rintro ⟨old, hold, rfl⟩
      exact Or.inr ⟨rfl, (List.getElem?_eq_some_iff.mp hold).1⟩
    · rintro (⟨hnone, -⟩ | ⟨hsome, hlt⟩)
      · cases hnone
      · exact ⟨m.flags[row], List.getElem?_eq_getElem hlt, Option.some.inj hsome⟩

/-- A run keeps the size, and behind it a step reads as a step on sets of rows: to intersect keeps
the rows that the other mask selects or does not reach, to unite adds the rows that it selects
within. The last step that decides on a row settles it, and the start where none does. The selected
rows are listed once each, from the first to the last, and `count` is their number. -/
theorem run_reads_as_row_sets (m : RowMask) (steps : List Step) :
    (m.run steps).size = m.size ∧
      (∀ other row, ((m.run steps).and other).Selects row ↔
        (m.run steps).Selects row ∧ (other.size ≤ row ∨ other.Selects row)) ∧
      (∀ other row, ((m.run steps).or other).Selects row ↔
        (m.run steps).Selects row ∨ (row < (m.run steps).size ∧ other.Selects row)) ∧
      (∀ row, (m.run steps).Selects row ↔
        (lastDecision? steps row = Option.none ∧ m.Selects row) ∨
          (lastDecision? steps row = some true ∧ row < m.size)) ∧
      (m.run steps).selected.Pairwise (· < ·) ∧
      (∀ row, row ∈ (m.run steps).selected ↔
        row < (m.run steps).size ∧ (m.run steps).Selects row) ∧
      (m.run steps).count = (m.run steps).selected.length := by
  refine ⟨size_run m steps, selects_and (m.run steps), selects_or (m.run steps),
    selects_run m steps, pairwise_selected (m.run steps), ?_, (length_selected (m.run steps)).symm⟩
  intro row
  rw [mem_selected]
  exact ⟨fun h ↦ ⟨lt_size_of_selects h, h⟩, And.right⟩

/-- The shorter mask leaves the rows behind it, the longer one adds none. -/
example : (run ⟨[true, false, true, false]⟩
    [.intersect ⟨[true, true]⟩, .unite ⟨[false, true, false, false, true]⟩]).selected =
      [0, 1, 2] := by
  decide

end Worksheet.Database.RowMask
