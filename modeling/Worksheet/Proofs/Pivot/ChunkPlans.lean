import Worksheet.Pivot.Plan
import Worksheet.Proofs.Pivot.ExactMoments

/-!
Accumulation by chunks, whatever the plan.

A run of a plan starts from an empty accumulator and a fork may have empty runs below it, so a plan
merges in the empty accumulator any number of times. What holds of the accumulator of a list and
survives a merge holds of the whole plan (`Plan.accumulate_induction`). So every plan over the
chunks of a list counts its values once each, and on exact numbers it ends with the accumulator
that takes the values one by one (`accumulate_plan_eq_ofList`).
-/

set_option autoImplicit false
set_option relaxedAutoImplicit false

namespace Worksheet.Pivot

/-! ### What a scan counts -/

namespace Accumulator

/-- So many numbers were taken, and nothing else was taken note of. -/
structure Tallies {α ε κ : Type} [Counter κ] (s : Accumulator α ε κ) (n : Nat) : Prop where
  count : s.count = Counter.ofNat n
  numbers : s.numbers = Counter.ofNat n
  error : s.error = none
  calculated : s.calculated = false

section

variable {α ε κ : Type} [Arithmetic α] [Extremes ε α] [Counter κ] {s t : Accumulator α ε κ}
  {m n : Nat}

theorem Tallies.empty : (empty : Accumulator α ε κ).Tallies 0 := ⟨rfl, rfl, rfl, rfl⟩

theorem Tallies.add (h : s.Tallies n) (x : α) : (s.add x).Tallies (n + 1) where
  count := by
    rw [Counter.ofNat_add, ← h.count]
    rfl
  numbers := by
    rw [Counter.ofNat_add, ← h.numbers]
    rfl
  error := h.error
  calculated := h.calculated

theorem Tallies.extend (h : s.Tallies n) (xs : List α) : (s.extend xs).Tallies (n + xs.length) := by
  induction xs generalizing s n with
  | nil => exact h
  | cons x xs ih =>
    have hrest := ih (h.add x)
    rw [Nat.add_right_comm] at hrest
    exact hrest

theorem tallies_ofList (xs : List α) : (ofList xs : Accumulator α ε κ).Tallies xs.length := by
  have h := (Tallies.empty (α := α) (ε := ε) (κ := κ)).extend xs
  rwa [Nat.zero_add] at h

theorem Tallies.merge (hs : s.Tallies m) (ht : t.Tallies n) : (s.merge t).Tallies (m + n) where
  count := by rw [count_merge, hs.count, ht.count, Counter.ofNat_add]
  numbers := by rw [numbers_merge, hs.numbers, ht.numbers, Counter.ofNat_add]
  error := by rw [error_merge, hs.error, ht.error, Option.none_or]
  calculated := by
    change (s.calculated || t.calculated) = false
    rw [hs.calculated, ht.calculated, Bool.or_false]

end

end Accumulator

/-! ### Plans -/

namespace Plan

section

variable {α ε κ : Type} [Arithmetic α] [Extremes ε α] [Counter κ]
  {P : List α → Accumulator α ε κ → Prop}
  (hempty : P [] .empty) (hchunk : ∀ xs, P xs (.ofList xs))
  (hmerge : ∀ {xs ys s t}, P xs s → P ys t → P (xs ++ ys) (s.merge t))

include hchunk hmerge in
private theorem foldl_merge_induction (cs : List (List α)) {xs : List α} {s : Accumulator α ε κ}
    (h : P xs s) :
    P (xs ++ cs.flatten) (cs.foldl (fun s chunk ↦ s.merge (.ofList chunk)) s) := by
  induction cs generalizing xs s with
  | nil =>
    rw [List.flatten_nil, List.append_nil]
    exact h
  | cons c cs ih =>
    have hrest := ih (hmerge h (hchunk c))
    rwa [List.append_assoc] at hrest

include hempty hchunk hmerge in
/-- What the empty accumulator and the accumulators of chunks have, and what a merge keeps, the
accumulator of a plan has. -/
theorem accumulate_induction (p : Plan (List α)) : P p.leaves.flatten p.accumulate := by
  induction p with
  | run chunks => exact foldl_merge_induction hchunk hmerge chunks hempty
  | fork left right hleft hright =>
    rw [leaves, List.flatten_append]
    exact hmerge hleft hright

end

theorem tallies_accumulate {α ε κ : Type} [Arithmetic α] [Extremes ε α] [Counter κ]
    (p : Plan (List α)) : (p.accumulate : Accumulator α ε κ).Tallies p.leaves.flatten.length := by
  refine accumulate_induction (P := fun xs s ↦ s.Tallies xs.length) .empty
    Accumulator.tallies_ofList ?_ p
  intro xs ys s t hs ht
  rw [List.length_append]
  exact hs.merge ht

theorem accumulate_eq_moments (p : Plan (List ℚ)) :
    (p.accumulate : ExactAccumulator) = moments p.leaves.flatten := by
  refine accumulate_induction (P := fun xs s ↦ s = moments xs) empty_eq_moments
    ofList_eq_moments ?_ p
  rintro xs ys s t rfl rfl
  rw [merge_moments, Multiset.coe_add]

end Plan

/-- Whatever the size of the chunks and whatever the plan over them, the accumulator has counted
the values of the list, once each, and nothing else. On exact numbers it is the accumulator that
takes the values one by one. -/
theorem accumulate_plan_eq_ofList (size : Nat) :
    (∀ (xs : List Float) (p : Plan (List Float)), p.leaves = chunks size xs →
      (p.accumulate : MachineAccumulator).Tallies xs.length) ∧
    ∀ (xs : List ℚ) (p : Plan (List ℚ)), p.leaves = chunks size xs →
      (p.accumulate : ExactAccumulator).Tallies xs.length ∧
        (p.accumulate : ExactAccumulator) = .ofList xs := by
  constructor
  · intro xs p hp
    have htallies := p.tallies_accumulate (ε := Float) (κ := UInt64)
    rwa [hp, flatten_chunks] at htallies
  · intro xs p hp
    have htallies := p.tallies_accumulate (ε := Bounded) (κ := ℕ)
    rw [hp, flatten_chunks] at htallies
    refine ⟨htallies, ?_⟩
    rw [p.accumulate_eq_moments, hp, flatten_chunks, ofList_eq_moments]

/-- Five numbers in chunks of two, with an empty run in front and the short chunk in a run of its
own; and a chunk of one where the size is zero. -/
theorem accumulate_plan_ragged :
    (Plan.fork (.run []) (.fork (.run [[5, -2], [1 / 2, 7]]) (.run [[3]]))).leaves =
        chunks 2 [5, -2, 1 / 2, 7, (3 : ℚ)] ∧
      (Plan.fork (.run []) (.fork (.run [[5, -2], [1 / 2, 7]]) (.run [[3]]))).accumulate =
        (.ofList [5, -2, 1 / 2, 7, 3] : ExactAccumulator) ∧
      (Plan.run [[2.5]]).leaves = chunks 0 [(2.5 : Float)] ∧
      ((Plan.run [[2.5]]).accumulate : MachineAccumulator).Tallies 1 := by
  have hexact : (Plan.fork (.run []) (.fork (.run [[5, -2], [1 / 2, 7]]) (.run [[3]]))).leaves =
      chunks 2 [5, -2, 1 / 2, 7, (3 : ℚ)] := by
    simp [Plan.leaves, chunks]
  have hfloat : (Plan.run [[2.5]]).leaves = chunks 0 [(2.5 : Float)] := by
    simp [Plan.leaves, chunks]
  exact ⟨hexact, ((accumulate_plan_eq_ofList 2).2 _ _ hexact).2, hfloat,
    (accumulate_plan_eq_ofList 0).1 _ _ hfloat⟩

end Worksheet.Pivot
