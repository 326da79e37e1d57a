import Worksheet.Proofs.Json.Records
import Worksheet.Proofs.Pivot.PristineMoments

/-!
Cells and accumulators read back from their stored form.

A stored value gives itself or nothing, whatever reader of doubles is used as long as it reads back
what is written for a finite double. A cell is read back when all its doubles are finite and its
containers nest at most `maxDepth` deep, where a block within a block takes three levels; an
accumulator when its doubles are finite.
-/

set_option autoImplicit false
set_option relaxedAutoImplicit false

namespace Worksheet

open Json

/-! ### Errors -/

theorem ErrorKind.ofJson?_toJson (k : ErrorKind) (depth : Nat) :
    ErrorKind.ofJson? depth k.toJson = some k := ofLabel?_label k

theorem CellError.gives_ofJson? (e : CellError) (depth : Nat) :
    Gives (CellError.ofJson? depth e.toJson) e (0 < depth) := by
  have hrecord : record? depth ["kind", "message"] e.toJson =
      if depth = 0 then none else some [.given e.kind.toJson, .given (ofOption .text e.message)] :=
    record?_zip ["kind", "message"] [e.kind.toJson, ofOption .text e.message] (by decide) rfl depth
  have hmessage : (Slot.given (ofOption Json.text e.message)).optional? string? = some e.message :=
    optional?_ofOption string? Json.text (fun _ h ↦ by cases h) (fun _ ↦ rfl) e.message
  unfold CellError.ofJson? CellError.toJson
  by_cases hdepth : depth = 0
  · rw [if_pos hdepth] at hrecord
    refine .of_eq_none ?_ (by omega)
    exact congrArg (Option.bind · _) hrecord
  · rw [if_neg hdepth] at hrecord
    refine .of_eq_some ((congrArg (Option.bind · _) hrecord).trans ?_) (by omega)
    change (ErrorKind.ofJson? (depth - 1) e.kind.toJson).bind _ = _
    rw [ErrorKind.ofJson?_toJson, Option.bind_some]
    change ((Slot.given (ofOption Json.text e.message)).optional? string?).bind _ = _
    rw [hmessage]
    rfl

theorem CellError.depth_toJson (e : CellError) : e.toJson.depth = 1 := by
  have hmessage : (ofOption Json.text e.message).depth = 0 := by
    cases e.message <;> rfl
  have hkind : e.kind.toJson.depth = 0 := rfl
  rw [toJson, depth, membersDepth, membersDepth, membersDepth, hmessage, hkind]
  rfl

theorem CellError.storable_toJson (e : CellError) : e.toJson.Storable := by
  refine .object _ (by simp) ?_
  exact List.forall_mem_cons.mpr
    ⟨.text _, List.forall_mem_singleton.mpr (storable_ofOption .text e.message)⟩

/-! ### Cells -/

namespace Cell

mutual

/-- The doubles in a cell. -/
def floats : Cell → List Float
  | number x => [x]
  | array rows => rowsFloats rows
  | _ => []

def cellsFloats : List Cell → List Float
  | [] => []
  | c :: cs => c.floats ++ cellsFloats cs

def rowsFloats : List (List Cell) → List Float
  | [] => []
  | row :: rows => cellsFloats row ++ rowsFloats rows

end

theorem cellsFloats_eq_flatMap (cs : List Cell) : cellsFloats cs = cs.flatMap floats := by
  induction cs with
  | nil => rw [cellsFloats, List.flatMap_nil]
  | cons c cs ih => rw [cellsFloats, ih, List.flatMap_cons]

theorem rowsFloats_eq_flatMap (rows : List (List Cell)) :
    rowsFloats rows = rows.flatMap fun row ↦ row.flatMap floats := by
  induction rows with
  | nil => rw [rowsFloats, List.flatMap_nil]
  | cons row rows ih => rw [rowsFloats, ih, cellsFloats_eq_flatMap, List.flatMap_cons]

theorem cellsToJson_eq_map (cs : List Cell) : cellsToJson cs = cs.map toJson := by
  induction cs with
  | nil => rw [cellsToJson, List.map_nil]
  | cons c cs ih => rw [cellsToJson, ih, List.map_cons]

theorem rowsToJson_eq_map (rows : List (List Cell)) :
    rowsToJson rows = rows.map fun row ↦ Json.array (row.map toJson) := by
  induction rows with
  | nil => rw [rowsToJson, List.map_nil]
  | cons row rows ih => rw [rowsToJson, ih, cellsToJson_eq_map, List.map_cons]

theorem depth_tagged (tag : String) (j : Json) : (tagged tag j).depth = j.depth + 1 := by
  rw [tagged, Json.depth, membersDepth, membersDepth, Nat.max_zero]

/-- All doubles of a cell are finite. -/
def Finite (c : Cell) : Prop := ∀ x ∈ c.floats, x.isFinite = true

theorem finite_array_iff (rows : List (List Cell)) :
    (array rows).Finite ↔ ∀ row ∈ rows, ∀ c ∈ row, c.Finite := by
  unfold Finite
  rw [floats, rowsFloats_eq_flatMap]
  simp only [List.mem_flatMap]
  constructor
  · intro h row hrow c hc x hx
    exact h x ⟨row, hrow, c, hc, hx⟩
  · rintro h x ⟨row, hrow, c, hc, hx⟩
    exact h row hrow c hc x hx

theorem toJson_array (rows : List (List Cell)) :
    (array rows).toJson =
      tagged "Array" (.array (rows.map fun row ↦ Json.array (row.map toJson))) := by
  rw [toJson, rowsToJson_eq_map]

/-- A block takes a level for its tag, one for its rows, and one for each row. -/
theorem depth_array_le_iff (rows : List (List Cell)) (n : Nat) :
    (array rows).toJson.depth ≤ n ↔
      2 ≤ n ∧ ∀ row ∈ rows, 3 ≤ n ∧ ∀ c ∈ row, c.toJson.depth ≤ n - 3 := by
  have hrow : ∀ row : List Cell, (Json.array (row.map toJson)).depth ≤ n - 1 - 1 ↔
      3 ≤ n ∧ ∀ c ∈ row, c.toJson.depth ≤ n - 3 := by
    intro row
    rw [depth_array_map_le_iff, show n - 1 - 1 - 1 = n - 3 by omega]
    exact and_congr_left fun _ ↦ by omega
  have hrows := depth_array_map_le_iff (fun row ↦ Json.array (row.map toJson)) rows (n - 1)
  simp only [hrow] at hrows
  rw [toJson_array, depth_tagged, show ∀ d, d + 1 ≤ n ↔ 1 ≤ n ∧ d ≤ n - 1 by omega, hrows,
    ← and_assoc]
  exact and_congr_left fun _ ↦ by omega

section

variable (read : DoubleReader) (n : Nat) (j : Json)

theorem ofJson?_tagged_zero (tag : String) : ofJson? read 0 (tagged tag j) = none := rfl

theorem ofJson?_tagged_int : ofJson? read (n + 1) (tagged "Int" j) = (int64? j).map int := by
  unfold tagged ofJson?
  rw [if_pos rfl]

theorem ofJson?_tagged_number :
    ofJson? read (n + 1) (tagged "Number" j) = (float? read j).map number := by
  unfold tagged ofJson?
  rw [if_neg (by decide), if_pos rfl]

theorem ofJson?_tagged_text :
    ofJson? read (n + 1) (tagged "Text" j) = (string? j).map text := by
  unfold tagged ofJson?
  rw [if_neg (by decide), if_neg (by decide), if_pos rfl]

theorem ofJson?_tagged_boolean :
    ofJson? read (n + 1) (tagged "Boolean" j) = (bool? j).map boolean := by
  unfold tagged ofJson?
  rw [if_neg (by decide), if_neg (by decide), if_neg (by decide), if_pos rfl]

theorem ofJson?_tagged_error :
    ofJson? read (n + 1) (tagged "Error" j) = (CellError.ofJson? n j).map error := by
  unfold tagged ofJson?
  simp only [String.reduceEq, if_false, if_true]

theorem ofJson?_tagged_array :
    ofJson? read (n + 3) (tagged "Array" j) = (items? (items? (ofJson? read n)) j).map array := rfl

theorem ofJson?_two_tagged_array :
    ofJson? read 2 (tagged "Array" j) = (items? (fun _ ↦ none) j).map array := rfl

theorem ofJson?_text_empty : ofJson? read n (.text "Empty") = some empty := by
  cases n <;> rfl

end

/-- The stored rows of a block, read with the levels that are left for them. -/
theorem gives_array {read : DoubleReader} {rows : List (List Cell)} {n : Nat}
    (h : ∀ m, n = m + 3 → ∀ c,
      Gives (ofJson? read m c.toJson) c (c.Finite ∧ c.toJson.depth ≤ m)) :
    Gives (ofJson? read n (array rows).toJson) (array rows)
      ((array rows).Finite ∧ (array rows).toJson.depth ≤ n) := by
  rw [finite_array_iff, depth_array_le_iff, toJson_array]
  rcases n with _ | _ | _ | n
  · exact .of_eq_none rfl fun hp ↦ absurd hp.2.1 (by decide)
  · exact .of_eq_none rfl fun hp ↦ absurd hp.2.1 (by decide)
  · -- Two levels are enough for a block without rows only.
    have hrows : ∀ row ∈ rows, Gives (none : Option (List Cell)) row False :=
      fun row _ ↦ .of_eq_none rfl id
    rw [ofJson?_two_tagged_array]
    refine ((gives_items rows hrows).map array).congr ?_
    constructor
    · exact fun hempty ↦ ⟨fun row hrow ↦ (hempty row hrow).elim, Nat.le_refl 2,
        fun row hrow ↦ (hempty row hrow).elim⟩
    · exact fun hp row hrow ↦ absurd (hp.2.2 row hrow).1 (by decide)
  · have hrows : ∀ row ∈ rows, Gives (items? (ofJson? read n) (Json.array (row.map toJson))) row
        (∀ c ∈ row, c.Finite ∧ c.toJson.depth ≤ n) :=
      fun row _ ↦ gives_items row fun c _ ↦ h n rfl c
    rw [ofJson?_tagged_array]
    refine ((gives_items rows hrows).map array).congr ?_
    constructor
    · exact fun hp ↦ ⟨fun row hrow c hc ↦ (hp row hrow c hc).1, by omega,
        fun row hrow ↦ ⟨by omega, fun c hc ↦ (hp row hrow c hc).2⟩⟩
    · exact fun hp row hrow c hc ↦ ⟨hp.1 row hrow c hc, (hp.2.2 row hrow).2 c hc⟩

/-- A cell that is no block takes a level for its tag. -/
theorem gives_tagged {read : DoubleReader} {c : Cell} {tag : String} {j : Json}
    (hc : c.toJson = tagged tag j)
    (h : ∀ n, Gives (ofJson? read (n + 1) (tagged tag j)) c (c.Finite ∧ j.depth ≤ n)) (n : Nat) :
    Gives (ofJson? read n c.toJson) c (c.Finite ∧ c.toJson.depth ≤ n) := by
  rw [hc, depth_tagged]
  cases n with
  | zero => exact .of_eq_none (ofJson?_tagged_zero read j tag) fun hp ↦ absurd hp.2 (by omega)
  | succ n => exact (h n).congr (and_congr_right fun _ ↦ by omega)

theorem finite_of_floats_eq_nil {c : Cell} (hc : c.floats = []) : c.Finite := by
  intro x hx
  rw [hc] at hx
  cases hx

/-- A stored cell gives itself or nothing. -/
theorem gives_ofJson? {read : DoubleReader} (hread : read.ReadsBack) (c : Cell) (n : Nat) :
    Gives (ofJson? read n c.toJson) c (c.Finite ∧ c.toJson.depth ≤ n) := by
  induction n using Nat.strongRecOn generalizing c with
  | _ n ih =>
    cases c with
    | int i =>
      refine gives_tagged rfl (fun n ↦ ?_) n
      rw [ofJson?_tagged_int, int64?_ofInt]
      exact .of_eq_some rfl ⟨finite_of_floats_eq_nil rfl, Nat.zero_le n⟩
    | number x =>
      refine gives_tagged rfl (fun n ↦ ?_) n
      rw [ofJson?_tagged_number]
      refine ((gives_float hread x).map number).congr ?_
      rw [depth_ofFloat, Finite, floats, List.forall_mem_singleton]
      exact (and_iff_left (Nat.zero_le n)).symm
    | text s =>
      refine gives_tagged rfl (fun n ↦ ?_) n
      rw [ofJson?_tagged_text]
      exact .of_eq_some rfl ⟨finite_of_floats_eq_nil rfl, Nat.zero_le n⟩
    | boolean b =>
      refine gives_tagged rfl (fun n ↦ ?_) n
      rw [ofJson?_tagged_boolean]
      exact .of_eq_some rfl ⟨finite_of_floats_eq_nil rfl, Nat.zero_le n⟩
    | array rows => exact gives_array fun m hm c ↦ ih m (by omega) c
    | empty =>
      exact .of_eq_some (ofJson?_text_empty read n) ⟨finite_of_floats_eq_nil rfl, Nat.zero_le n⟩
    | error e =>
      refine gives_tagged rfl (fun n ↦ ?_) n
      rw [ofJson?_tagged_error]
      refine ((e.gives_ofJson? n).map error).congr ?_
      rw [e.depth_toJson]
      exact (and_iff_right (finite_of_floats_eq_nil rfl)).symm

theorem storable_tagged (tag : String) {j : Json} (h : j.Storable) : (tagged tag j).Storable := by
  refine .object _ (by simp) ?_
  rwa [List.forall_mem_singleton]

mutual

theorem storable_toJson : (c : Cell) → c.toJson.Storable
  | int i => by rw [toJson]; exact storable_tagged _ (storable_ofInt _)
  | number x => by rw [toJson]; exact storable_tagged _ (storable_ofFloat x)
  | text s => by rw [toJson]; exact storable_tagged _ (.text s)
  | boolean b => by rw [toJson]; exact storable_tagged _ (.bool b)
  | array rows => by rw [toJson]; exact storable_tagged _ (.array _ (storable_rowsToJson rows))
  | empty => by rw [toJson]; exact .text _
  | error e => by rw [toJson]; exact storable_tagged _ e.storable_toJson

theorem storable_cellsToJson : (cs : List Cell) → ∀ j ∈ cellsToJson cs, j.Storable
  | [] => by rw [cellsToJson]; exact fun _ hj ↦ nomatch hj
  | c :: cs => by
    rw [cellsToJson, List.forall_mem_cons]
    exact ⟨storable_toJson c, storable_cellsToJson cs⟩

theorem storable_rowsToJson : (rows : List (List Cell)) → ∀ j ∈ rowsToJson rows, j.Storable
  | [] => by rw [rowsToJson]; exact fun _ hj ↦ nomatch hj
  | row :: rows => by
    rw [rowsToJson, List.forall_mem_cons]
    exact ⟨.array _ (storable_cellsToJson row), storable_rowsToJson rows⟩

end

theorem gives_readAs? {read : DoubleReader} (hread : read.ReadsBack) (c : Cell) :
    Gives (readAs? (ofJson? read) (write c.toJson)) c
      (c.Finite ∧ c.toJson.depth ≤ maxDepth) := by
  unfold readAs?
  rw [parse_write c.storable_toJson]
  exact c.gives_ofJson? hread maxDepth

end Cell

/-! ### Accumulators -/

namespace Pivot.Accumulator

/-- The doubles in an accumulator. -/
def floats (s : MachineAccumulator) : List Float :=
  [s.min, s.max, s.sum, s.product, s.mean, s.spread]

theorem storable_toJson (s : MachineAccumulator) : s.toJson.Storable := by
  refine .object _ ?_ ?_
  · rintro m hm
    obtain ⟨name, -, hname⟩ := fst_mem_of_mem_zip hm
    rw [hname]
    rfl
  · rintro ⟨key, j⟩ hm
    have hj := (List.of_mem_zip hm).2
    simp only [List.mem_cons, List.not_mem_nil, or_false] at hj
    rcases hj with rfl | rfl | rfl | rfl | rfl | rfl | rfl | rfl | rfl | rfl
    · exact storable_ofInt _
    · exact storable_ofInt _
    · exact storable_ofFloat _
    · exact storable_ofFloat _
    · exact storable_ofFloat _
    · exact storable_ofFloat _
    · exact storable_ofFloat _
    · exact storable_ofFloat _
    · exact storable_ofOption (fun _ ↦ .text _) _
    · exact .bool _

theorem gives_ofJson? {read : DoubleReader} (hread : read.ReadsBack) (s : MachineAccumulator)
    {n : Nat} (hn : 0 < n) :
    Gives (ofJson? read n s.toJson) s (∀ x ∈ s.floats, x.isFinite = true) := by
  have hrecord : record? n fieldNames s.toJson =
      if n = 0 then none else some (List.map Slot.given _) :=
    record?_zip fieldNames [ofInt s.count.toNat, ofInt s.numbers.toNat, ofFloat s.min,
      ofFloat s.max, ofFloat s.sum, ofFloat s.product, ofFloat s.mean, ofFloat s.spread,
      ofOption ErrorKind.toJson s.error, .bool s.calculated] (by decide) rfl n
  rw [if_neg (by omega)] at hrecord
  have herror : (Slot.given (ofOption ErrorKind.toJson s.error)).optional?
      (ErrorKind.ofJson? (n - 1)) = some s.error :=
    optional?_ofOption _ _ (fun _ h ↦ by cases h) (fun k ↦ k.ofJson?_toJson (n - 1)) s.error
  have hfloats : (∀ x ∈ s.floats, x.isFinite = true) ↔ s.min.isFinite = true ∧
      s.max.isFinite = true ∧ s.sum.isFinite = true ∧ s.product.isFinite = true ∧
      s.mean.isFinite = true ∧ s.spread.isFinite = true := by
    simp [floats]
  unfold ofJson?
  rw [hfloats]
  refine .bind_of_eq_some hrecord <| .bind_of_eq_some (count?_ofInt s.count) <|
    .bind_of_eq_some (count?_ofInt s.numbers) <| (gives_float hread s.min).bind <|
    (gives_float hread s.max).bind <| (gives_float hread s.sum).bind <|
    (gives_float hread s.product).bind <| (gives_float hread s.mean).bind <| ?_
  refine ((gives_float hread s.spread).bind (.of_eq_some ?_ trivial)).congr (and_iff_left trivial)
  rw [herror]
  rfl

theorem gives_readAs? {read : DoubleReader} (hread : read.ReadsBack) (s : MachineAccumulator) :
    Gives (readAs? (ofJson? read) (write s.toJson)) s (∀ x ∈ s.floats, x.isFinite = true) := by
  unfold readAs?
  rw [parse_write s.storable_toJson]
  exact s.gives_ofJson? hread (by decide)

end Pivot.Accumulator

/-! ### The round trip -/

/-- Cells and accumulators come back from their stored text bit for bit, or not at all, if the
stored form of a finite double is read as that double. A cell comes back when its doubles are finite
and its containers nest at most `maxDepth` deep, an accumulator when its doubles are finite; one
that has taken no number does not. -/
theorem stored_round_trip (read : DoubleReader)
    (hread : ∀ x : Float, x.isFinite = true →
      read (Decimal.Layout.stored.write x).toList = some x) :
    (∀ c c' : Cell, readAs? (Cell.ofJson? read) (write c.toJson) = some c' ↔
      c' = c ∧ (∀ x ∈ c.floats, x.isFinite = true) ∧ c.toJson.depth ≤ maxDepth) ∧
    (∀ s s' : Pivot.MachineAccumulator,
      readAs? (Pivot.Accumulator.ofJson? read) (write s.toJson) = some s' ↔
        s' = s ∧ ∀ x ∈ s.floats, x.isFinite = true) ∧
    ∀ r : Pivot.Run, (∀ e ∈ r.log, e.isNumber = false) →
      readAs? (Pivot.Accumulator.ofJson? read) (write r.accumulator.toJson) = none := by
  refine ⟨fun c ↦ c.gives_readAs? hread, fun s ↦ s.gives_readAs? hread, fun r hr ↦ ?_⟩
  -- The least of no numbers is infinite.
  refine Option.eq_none_iff_forall_ne_some.mpr fun s hs ↦ ?_
  have hfinite := ((r.accumulator.gives_readAs? hread s).mp hs).2 _ List.mem_cons_self
  rw [(r.pristine_accumulator hr).min] at hfinite
  exact absurd hfinite (by decide +kernel)

/-- A ragged block with a block in it comes back; an accumulator without numbers does not. -/
theorem ragged_block_read_back :
    readAs? (Cell.ofJson? nearestDouble?) (write (Cell.array [[.number 0.1, .text "a\"b"], [],
      [.array [[.error ⟨.value, some "m"⟩]], .empty, .int (-7)]]).toJson) =
        some (.array [[.number 0.1, .text "a\"b"], [],
          [.array [[.error ⟨.value, some "m"⟩]], .empty, .int (-7)]]) ∧
    readAs? (Pivot.Accumulator.ofJson? nearestDouble?)
      (write (Pivot.Run.addCount .empty).accumulator.toJson) = none := by
  obtain ⟨hcell, -, hnone⟩ := stored_round_trip nearestDouble? readsBack_nearestDouble?
  refine ⟨(hcell _ _).mpr ⟨rfl, by decide +kernel, by decide +kernel⟩, ?_⟩
  exact hnone (.addCount .empty) (List.forall_mem_singleton.mpr rfl)

/-- Blocks nested in one another: the innermost has no rows. -/
def nested : Nat → Cell
  | 0 => .array []
  | n + 1 => .array [[nested n]]

theorem floats_nested (n : Nat) : (nested n).floats = [] := by
  induction n with
  | zero => rw [nested, Cell.floats, Cell.rowsFloats]
  | succ n ih =>
    rw [nested, Cell.floats, Cell.rowsFloats, Cell.rowsFloats, Cell.cellsFloats, Cell.cellsFloats,
      ih]
    rfl

theorem depth_nested (n : Nat) : (nested n).toJson.depth = 3 * n + 2 := by
  induction n with
  | zero => rfl
  | succ n ih =>
    rw [nested, Cell.toJson, Cell.depth_tagged, Cell.rowsToJson, Cell.rowsToJson, Cell.cellsToJson,
      Cell.cellsToJson, depth, itemsDepth, itemsDepth, depth, itemsDepth, itemsDepth, ih]
    omega

/-- The cell has no doubles, the stored form of every finite double is read as that double, and yet
the cell does not come back: it nests too deep. -/
theorem not_read_back_nested :
    (∀ x : Float, x.isFinite = true →
      nearestDouble? (Decimal.Layout.stored.write x).toList = some x) ∧
    (nested 42).floats = [] ∧
    readAs? (Cell.ofJson? nearestDouble?) (write (nested 42).toJson) = none := by
  refine ⟨readsBack_nearestDouble?, floats_nested 42,
    Option.eq_none_iff_forall_ne_some.mpr fun c hc ↦ ?_⟩
  have hdepth := ((nested 42).gives_readAs? readsBack_nearestDouble? c).mp hc
  rw [depth_nested] at hdepth
  exact absurd hdepth.2.2 (by decide)

end Worksheet
