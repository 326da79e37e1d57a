import Worksheet.Cell.Digest
import Worksheet.Proofs.Decimal.FloatOrder
import Worksheet.Proofs.Json.StoredValues

/-!
Equality of cells beside their digests.

Cells are compared and hashed in lockstep: equal cells are of one shape, so that their bytes stand
at the same places and differ only where their doubles do (`agree_of_beq`). A cell equals itself
unless there is a NaN in it (`beq_self_iff`). Equal doubles are the same but for the two zeros, and
the zeros have different bits: equal cells have the same bytes exactly when their zeros have the
same signs (`equality_and_digests`).
-/

set_option autoImplicit false
set_option relaxedAutoImplicit false

namespace Worksheet

open Decimal

/-! ### The bytes of a word -/

theorem toNat_wordByte (w : UInt64) {i : Nat} (hi : i < 8) :
    (w >>> (8 * i).toUInt64).toUInt8.toNat = w.toNat / 256 ^ i % 256 := by
  have hshift : (8 * i).toUInt64.toNat % 64 = 8 * i := by
    simp only [Nat.toUInt64_eq, UInt64.toNat_ofNat']
    omega
  rw [UInt64.toNat_toUInt8, UInt64.toNat_shiftRight, hshift, Nat.shiftRight_eq_div_pow, pow_mul]
  rfl

/-- Numbers with the same low digits have the same remainder. -/
theorem mod_pow_eq_of_digits {m n base : Nat} (count : Nat)
    (h : ∀ i < count, m / base ^ i % base = n / base ^ i % base) :
    m % base ^ count = n % base ^ count := by
  induction count with
  | zero => rw [pow_zero, Nat.mod_one, Nat.mod_one]
  | succ count ih =>
    rw [Nat.mod_pow_succ, Nat.mod_pow_succ, h count count.lt_succ_self,
      ih fun i hi ↦ h i (Nat.lt_succ_of_lt hi)]

theorem length_wordBytes (w : UInt64) : (wordBytes w).length = 8 := by
  rw [wordBytes, List.length_map, List.length_range]

/-- Eight bytes determine a word. -/
theorem wordBytes_injective : Function.Injective wordBytes := by
  intro v w h
  have hdigits : ∀ i < 8, v.toNat / 256 ^ i % 256 = w.toNat / 256 ^ i % 256 := by
    intro i hi
    have hbyte := List.map_inj_left.mp h i (List.mem_range.mpr hi)
    rw [← toNat_wordByte v hi, ← toNat_wordByte w hi, hbyte]
  have hword (u : UInt64) : u.toNat % 256 ^ 8 = u.toNat := Nat.mod_eq_of_lt u.toNat_lt
  have hmod := mod_pow_eq_of_digits 8 hdigits
  rw [hword, hword] at hmod
  exact UInt64.toNat_inj.mp hmod

/-! ### Equal cells -/

/-- Equal doubles of which none is a zero are the same. -/
theorem eq_of_forall₂_beq {floats floats' : List Float}
    (h : List.Forall₂ (fun x y ↦ (x == y) = true) floats floats')
    (hzero : ∀ x ∈ floats, ¬ IsZero x) : floats = floats' := by
  induction h with
  | nil => rfl
  | cons hxy _ ih =>
    obtain ⟨hx, hrest⟩ := List.forall_mem_cons.mp hzero
    obtain ⟨rfl, -⟩ := ((beq_iff _ _).mp hxy).resolve_right fun hzeros ↦ hx hzeros.1
    rw [ih hrest]

/-- The bytes and the doubles of two values that are equal: the bytes stand at the same places, and
they are the same when the doubles are. -/
structure Agree (bytes bytes' : List UInt8) (floats floats' : List Float) : Prop where
  length_eq : bytes.length = bytes'.length
  floats_beq : List.Forall₂ (fun x y ↦ (x == y) = true) floats floats'
  bytes_eq_iff : bytes = bytes' ↔ floats = floats'

namespace Agree

/-- A value without doubles. -/
theorem same (bytes : List UInt8) : Agree bytes bytes [] [] := ⟨rfl, .nil, iff_of_true rfl rfl⟩

theorem number {x y : Float} (h : (x == y) = true) :
    Agree (wordBytes x.toBits) (wordBytes y.toBits) [x] [y] where
  length_eq := (length_wordBytes _).trans (length_wordBytes _).symm
  floats_beq := .cons h .nil
  bytes_eq_iff := by
    rw [wordBytes_injective.eq_iff, toBits_injective.eq_iff, List.cons_eq_cons, and_iff_left rfl]

theorem append {bytes bytes' more more' : List UInt8} {floats floats' others others' : List Float}
    (h : Agree bytes bytes' floats floats') (hmore : Agree more more' others others') :
    Agree (bytes ++ more) (bytes' ++ more') (floats ++ others) (floats' ++ others') where
  length_eq := by rw [List.length_append, List.length_append, h.length_eq, hmore.length_eq]
  floats_beq := List.rel_append h.floats_beq hmore.floats_beq
  bytes_eq_iff := by
    have hbytes : bytes ++ more = bytes' ++ more' ↔ bytes = bytes' ∧ more = more' :=
      ⟨fun heq ↦ List.append_inj heq h.length_eq, fun ⟨heq, heq'⟩ ↦ heq ▸ heq' ▸ rfl⟩
    have hfloats : floats ++ others = floats' ++ others' ↔ floats = floats' ∧ others = others' :=
      ⟨fun heq ↦ List.append_inj heq h.floats_beq.length_eq, fun ⟨heq, heq'⟩ ↦ heq ▸ heq' ▸ rfl⟩
    rw [hbytes, hfloats, h.bytes_eq_iff, hmore.bytes_eq_iff]

end Agree

namespace Cell

mutual

/-- Equal cells agree in their bytes up to their doubles. -/
theorem agree_of_beq : (a b : Cell) → a.beq b = true →
    Agree a.hashBytes b.hashBytes a.floats b.floats
  | int i, b, h => by
    cases b with
    | int j => cases eq_of_beq h; exact .same _
    | _ => cases h
  | number x, b, h => by
    cases b with
    | number y => exact .number h
    | _ => cases h
  | text s, b, h => by
    cases b with
    | text t => cases eq_of_beq h; exact .same _
    | _ => cases h
  | boolean p, b, h => by
    cases b with
    | boolean q => cases eq_of_beq h; exact .same _
    | _ => cases h
  | array rows, b, h => by
    cases b with
    | array rows' =>
      -- Equal blocks have as many rows, so that the bytes before the rows are the same.
      obtain ⟨hlength, hagree⟩ := agree_of_beqRows rows rows' h
      rw [hashBytes, hashBytes, hlength]
      exact (Agree.same _).append hagree
    | _ => cases h
  | empty, b, h => by
    cases b with
    | empty => exact .same _
    | _ => cases h
  | error e, b, h => by
    cases b with
    | error e' => cases eq_of_beq h; exact .same _
    | _ => cases h

theorem agree_of_beqRow : (cs cs' : List Cell) → beqRow cs cs' = true →
    cs.length = cs'.length ∧ Agree (hashRow cs) (hashRow cs') (cellsFloats cs) (cellsFloats cs')
  | [], [], _ => ⟨rfl, .same []⟩
  | c :: cs, c' :: cs', h => by
    obtain ⟨hcell, hcells⟩ := Bool.and_eq_true_iff.mp h
    obtain ⟨hlength, hagree⟩ := agree_of_beqRow cs cs' hcells
    exact ⟨congrArg Nat.succ hlength, (agree_of_beq c c' hcell).append hagree⟩

theorem agree_of_beqRows : (rows rows' : List (List Cell)) → beqRows rows rows' = true →
    rows.length = rows'.length ∧
      Agree (hashRows rows) (hashRows rows') (rowsFloats rows) (rowsFloats rows')
  | [], [], _ => ⟨rfl, .same []⟩
  | row :: rows, row' :: rows', h => by
    obtain ⟨hrow, hrows⟩ := Bool.and_eq_true_iff.mp h
    obtain ⟨hcount, hcells⟩ := agree_of_beqRow row row' hrow
    obtain ⟨hlength, hagree⟩ := agree_of_beqRows rows rows' hrows
    refine ⟨congrArg Nat.succ hlength, ?_⟩
    rw [hashRows, hashRows, hcount]
    exact ((Agree.same _).append hcells).append hagree

end

mutual

/-- A cell without a NaN equals itself, and no other cell does. -/
theorem beq_self_iff : (a : Cell) → (a.beq a = true ↔ ∀ x ∈ a.floats, x.isNaN = false)
  | int i => iff_of_true (beq_self_eq_true i) fun _ hx ↦ nomatch hx
  | number x => by
    rw [floats, List.forall_mem_singleton, ← Decimal.beq_self_iff]
    rfl
  | text s => iff_of_true (beq_self_eq_true s) fun _ hx ↦ nomatch hx
  | boolean b => iff_of_true (beq_self_eq_true b) fun _ hx ↦ nomatch hx
  | array rows => by
    rw [floats, ← beqRows_self_iff rows]
    rfl
  | empty => iff_of_true rfl fun _ hx ↦ nomatch hx
  | error e => iff_of_true (beq_self_eq_true e) fun _ hx ↦ nomatch hx

theorem beqRow_self_iff : (cs : List Cell) →
    (beqRow cs cs = true ↔ ∀ x ∈ cellsFloats cs, x.isNaN = false)
  | [] => iff_of_true rfl fun _ hx ↦ nomatch hx
  | c :: cs => by
    rw [cellsFloats, List.forall_mem_append, ← beq_self_iff c, ← beqRow_self_iff cs,
      ← Bool.and_eq_true_iff]
    rfl

theorem beqRows_self_iff : (rows : List (List Cell)) →
    (beqRows rows rows = true ↔ ∀ x ∈ rowsFloats rows, x.isNaN = false)
  | [] => iff_of_true rfl fun _ hx ↦ nomatch hx
  | row :: rows => by
    rw [rowsFloats, List.forall_mem_append, ← beqRow_self_iff row, ← beqRows_self_iff rows,
      ← Bool.and_eq_true_iff]
    rfl

end

/-- A cell equals itself exactly when there is no NaN in it. Equal cells are hashed by the same
bytes exactly when their doubles are the same, which they are unless there are zeros among them. -/
theorem equality_and_digests (a b : Cell) :
    ((a == a) = true ↔ ∀ x ∈ a.floats, x.isNaN = false) ∧
      ((a == b) = true → (a.hashBytes = b.hashBytes ↔ a.floats = b.floats)) ∧
      ((a == b) = true → (∀ x ∈ a.floats, ¬ IsZero x) → a.hashBytes = b.hashBytes) := by
  have hagree (h : (a == b) = true) : Agree a.hashBytes b.hashBytes a.floats b.floats :=
    agree_of_beq a b h
  refine ⟨beq_self_iff a, fun h ↦ (hagree h).bytes_eq_iff, fun h hzero ↦ ?_⟩
  exact (hagree h).bytes_eq_iff.mpr (eq_of_forall₂_beq (hagree h).floats_beq hzero)

/-- A ragged block within a block equals itself and is hashed by its bytes. -/
theorem digest_of_nested_block :
    (array [[array [[number 1.5], []], text "x"]] ==
        array [[array [[number 1.5], []], text "x"]]) = true ∧
      (∀ x ∈ (array [[array [[number 1.5], []], text "x"]]).floats, ¬ IsZero x) ∧
      (array [[array [[number 1.5], []], text "x"]]).hashBytes =
        (array [[array [[number 1.5], []], text "x"]]).hashBytes := by
  obtain ⟨hself, -, hdigest⟩ := equality_and_digests (array [[array [[number 1.5], []], text "x"]])
    (array [[array [[number 1.5], []], text "x"]])
  have hnumber : ∀ x ∈ (array [[array [[number 1.5], []], text "x"]]).floats, x.isNaN = false :=
    List.forall_mem_singleton.mpr (by decide +kernel)
  have hzero : ∀ x ∈ (array [[array [[number 1.5], []], text "x"]]).floats, ¬ IsZero x := by
    refine List.forall_mem_singleton.mpr ?_
    unfold IsZero
    decide +kernel
  have hequal := hself.mpr hnumber
  exact ⟨hequal, hzero, hdigest hequal hzero⟩

/-- A NaN is not equal to itself, and the two zeros are equal but hashed by different bytes. -/
theorem nan_unequal_and_zeros_hashed_apart :
    (number (0.0 / 0.0) == number (0.0 / 0.0)) = false ∧
      (number 0.0 == number (-0.0)) = true ∧
      (number 0.0).hashBytes ≠ (number (-0.0)).hashBytes := by
  refine ⟨?_, ?_, ?_⟩ <;> decide +kernel

end Cell

end Worksheet
