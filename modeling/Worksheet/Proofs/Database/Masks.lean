import Worksheet.Database.RowMask

/-!
Row masks read as sets of rows.

`Selects` is the view of a mask: each operation is described by the rows that it selects.
`selects_foldl_and` and `selects_foldl_or` carry the view through a run of steps with masks of the
same length, and `selected` lists the rows of the view in increasing order.
-/

set_option autoImplicit false
set_option relaxedAutoImplicit false

namespace Worksheet.Database.RowMask

/-- The row is selected. A mask selects no row beyond its end. -/
def Selects (m : RowMask) (row : Nat) : Prop := m.flags[row]? = some true

theorem lt_size_of_selects {m : RowMask} {row : Nat} (h : m.Selects row) : row < m.size := by
  obtain ⟨hlt, -⟩ := List.getElem?_eq_some_iff.mp h
  exact hlt

theorem selects_all (rows row : Nat) : (all rows).Selects row ↔ row < rows := by
  simp [Selects, all, List.getElem?_replicate]

theorem not_selects_none (rows row : Nat) : ¬ (none rows).Selects row := by
  simp [Selects, none, List.getElem?_replicate]

/-! ### One step -/

theorem getElem?_combine (f : Bool → Bool → Bool) (as bs : List Bool) (i : Nat) :
    (combine f as bs)[i]? = as[i]?.map fun a ↦ bs[i]?.elim a (f a) := by
  induction as generalizing bs i with
  | nil => cases bs <;> simp [combine]
  | cons a as ih =>
    cases bs with
    | nil => cases i <;> simp [combine]
    | cons b bs =>
      cases i with
      | zero => rfl
      | succ i => simpa [combine] using ih bs i

theorem selects_and (m n : RowMask) (row : Nat) :
    (m.and n).Selects row ↔ m.Selects row ∧ (n.size ≤ row ∨ n.Selects row) := by
  unfold Selects and
  rw [getElem?_combine]
  by_cases h : row < n.size
  · rw [List.getElem?_eq_getElem h]
    cases m.flags[row]? with
    | none => simp
    | some a => cases a <;> simp [Nat.not_le.mpr h]
  · have hle : n.size ≤ row := Nat.le_of_not_lt h
    rw [List.getElem?_eq_none hle]
    cases m.flags[row]? <;> simp [hle]

theorem selects_or (m n : RowMask) (row : Nat) :
    (m.or n).Selects row ↔ m.Selects row ∨ (row < m.size ∧ n.Selects row) := by
  unfold Selects or
  rw [getElem?_combine]
  by_cases h : row < m.size
  · rw [List.getElem?_eq_getElem h]
    cases hn : n.flags[row]? with
    | none => simp
    | some b => cases m.flags[row] <;> simp [h]
  · rw [List.getElem?_eq_none (Nat.le_of_not_lt h)]
    simp [h]

/-! ### Runs of steps -/

section Runs

variable {β : Type}

/-- A run keeps the number of rows when each of its steps does. -/
theorem size_foldl (step : RowMask → β → RowMask)
    (hstep : ∀ mask item, (step mask item).size = mask.size) (items : List β) (m : RowMask) :
    (items.foldl step m).size = m.size := by
  induction items generalizing m with
  | nil => rfl
  | cons item items ih => rw [List.foldl_cons, ih, hstep]

theorem selects_foldl_and (f : β → RowMask) (items : List β) (m : RowMask) (row : Nat)
    (hsize : ∀ item ∈ items, (f item).size = m.size) :
    (items.foldl (fun mask item ↦ mask.and (f item)) m).Selects row ↔
      m.Selects row ∧ ∀ item ∈ items, (f item).Selects row := by
  induction items generalizing m with
  | nil => simp
  | cons item items ih =>
    have hitem : (f item).size = m.size := hsize item List.mem_cons_self
    have hrest : ∀ other ∈ items, (f other).size = (m.and (f item)).size := by
      intro other hother
      rw [size_and]
      exact hsize other (List.mem_cons_of_mem item hother)
    rw [List.foldl_cons, ih (m.and (f item)) hrest, selects_and, List.forall_mem_cons, hitem]
    constructor
    · intro h
      obtain ⟨⟨hm, hle | hf⟩, hall⟩ := h
      · exact absurd (lt_size_of_selects hm) (Nat.not_lt.mpr hle)
      · exact ⟨hm, hf, hall⟩
    · intro h
      obtain ⟨hm, hf, hall⟩ := h
      exact ⟨⟨hm, Or.inr hf⟩, hall⟩

theorem selects_foldl_or (f : β → RowMask) (items : List β) (m : RowMask) (row : Nat)
    (hsize : ∀ item ∈ items, (f item).size = m.size) :
    (items.foldl (fun mask item ↦ mask.or (f item)) m).Selects row ↔
      m.Selects row ∨ ∃ item ∈ items, (f item).Selects row := by
  induction items generalizing m with
  | nil => simp
  | cons item items ih =>
    have hitem : (f item).size = m.size := hsize item List.mem_cons_self
    have hrest : ∀ other ∈ items, (f other).size = (m.or (f item)).size := by
      intro other hother
      rw [size_or]
      exact hsize other (List.mem_cons_of_mem item hother)
    rw [List.foldl_cons, ih (m.or (f item)) hrest, selects_or]
    simp only [List.mem_cons, exists_eq_or_imp]
    constructor
    · intro h
      rcases h with (hm | ⟨-, hf⟩) | hexists
      · exact Or.inl hm
      · exact Or.inr (Or.inl hf)
      · exact Or.inr (Or.inr hexists)
    · intro h
      rcases h with hm | hf | hexists
      · exact Or.inl (Or.inl hm)
      · exact Or.inl (Or.inr ⟨hitem ▸ lt_size_of_selects hf, hf⟩)
      · exact Or.inr hexists

end Runs

/-! ### The list of selected rows -/

theorem mem_selected (m : RowMask) (row : Nat) : row ∈ m.selected ↔ m.Selects row := by
  unfold selected Selects
  rw [List.mem_filterMap]
  constructor
  · intro h
    obtain ⟨⟨flag, i⟩, hmem, heq⟩ := h
    have hflag := List.mem_zipIdx_iff_getElem?.mp hmem
    cases flag with
    | false => cases heq
    | true =>
      cases heq
      exact hflag
  · intro h
    exact ⟨(true, row), List.mem_zipIdx_iff_getElem?.mpr h, rfl⟩

theorem pairwise_selected (m : RowMask) : m.selected.Pairwise (· < ·) := by
  have hindices : m.flags.zipIdx.Pairwise fun a b ↦ a.2 < b.2 := by
    apply List.pairwise_map.mp
    rw [List.zipIdx_map_snd]
    exact List.pairwise_lt_range'
  refine hindices.filterMap _ ?_
  rintro ⟨a, i⟩ ⟨b, j⟩ hij row hrow other hother
  cases a <;> cases b <;> cases hrow <;> cases hother
  exact hij

theorem length_selected (m : RowMask) : m.selected.length = m.count := by
  unfold selected count
  rw [List.length_filterMap_eq_countP, List.count_eq_countP, ← List.zipIdx_map_fst 0 m.flags,
    List.countP_map, List.zipIdx_map_fst]
  refine List.countP_congr fun entry _ ↦ ?_
  cases h : entry.1 <;> simp [h]

/-- Picking from a column that is computed row by row reads the selected rows in order. -/
theorem pick_map_range {α : Type} (m : RowMask) (f : Nat → α) :
    m.pick ((List.range m.size).map f) = m.selected.map f := by
  unfold pick selected size
  have hzip : ((List.range m.flags.length).map f).zip m.flags =
      m.flags.zipIdx.map fun entry ↦ (f entry.2, entry.1) := by
    refine List.ext_getElem (by simp) fun i hi _ ↦ ?_
    simp
  rw [hzip, List.filterMap_map, List.map_filterMap]
  congr 1
  funext entry
  obtain ⟨flag, i⟩ := entry
  cases flag with
  | false => rfl
  | true => rfl

end Worksheet.Database.RowMask
