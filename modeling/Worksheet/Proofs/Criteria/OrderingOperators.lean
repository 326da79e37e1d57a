import Worksheet.Proofs.Criteria.FoldedPatterns
import Worksheet.Proofs.Decimal.FloatOrder

/-!
The ordering operators beside each other and beside equality.

The four ordering operators ask for the order of two cells (`holds_iff_order?`). Numbers, texts and
truth values have one among themselves and no other cells do (`order?_isSome_iff`), so that of two
opposite operators one holds of such cells and none of any others. Equality is not decided by the
order: a number equals by its own rule, and a text is a wildcard pattern. The two agree on a
definite operand, a number, a truth value or a text without a wildcard, which stands for itself
alone (`holds_eq_iff_order?`).
-/

set_option autoImplicit false
set_option relaxedAutoImplicit false

namespace Worksheet.Criteria

open Decimal Text.Lowercase Wildcard

/-! ### The order of two cells -/

/-- Both are numbers and no NaN, both are texts, or both are truth values. -/
inductive Ordered : Cell → Cell → Prop where
  | numbers {v w : Cell} {x y : Float} (hv : v.number? = some x) (hw : w.number? = some y)
      (hx : x.isNaN = false) (hy : y.isNaN = false) : Ordered v w
  | texts (s p : String) : Ordered (.text s) (.text p)
  | booleans (a b : Bool) : Ordered (.boolean a) (.boolean b)

namespace Options

theorem compareFloats_eq_compare (x y : Float) :
    compareFloats x y = x.toModel.unpack.compare y.toModel.unpack := by
  unfold compareFloats
  simp only [lt_iff_compare, beq_iff_compare, compare_swap x.toModel.unpack y.toModel.unpack]
  cases x.toModel.unpack.compare y.toModel.unpack with
  | none => rfl
  | some r => cases r <;> rfl

theorem compareFloats_isSome_iff (x y : Float) :
    (compareFloats x y).isSome = true ↔ x.isNaN = false ∧ y.isNaN = false := by
  rw [compareFloats_eq_compare, Option.isSome_iff_ne_none, Ne, compare_eq_none_iff, not_or,
    Bool.not_eq_true, Bool.not_eq_true]
  rfl

theorem compareFloats_eq_some_eq_iff (x y : Float) :
    compareFloats x y = some .eq ↔ (x == y) = true := by
  rw [compareFloats_eq_compare, beq_iff_compare]

variable (o : Options)

/-- An order is an order of numbers, of texts or of truth values. -/
theorem order?_isSome_iff (v w : Cell) : (o.order? v w).isSome = true ↔ Ordered v w := by
  unfold order?
  split
  · next s p => exact iff_of_true rfl (.texts s p)
  · next a b => exact iff_of_true rfl (.booleans a b)
  · next htexts hbooleans =>
    constructor
    · intro h
      obtain ⟨r, hr⟩ := Option.isSome_iff_exists.mp h
      obtain ⟨x, hx, hr⟩ := Option.bind_eq_some_iff.mp hr
      obtain ⟨y, hy, hr⟩ := Option.bind_eq_some_iff.mp hr
      obtain ⟨hxn, hyn⟩ := (compareFloats_isSome_iff x y).mp (Option.isSome_of_eq_some hr)
      exact .numbers hx hy hxn hyn
    · intro h
      cases h with
      | numbers hx hy hxn hyn =>
        rw [hx, hy]
        exact (compareFloats_isSome_iff _ _).mpr ⟨hxn, hyn⟩
      | texts s p => exact absurd rfl (htexts s p rfl)
      | booleans a b => exact absurd rfl (hbooleans a b rfl)

/-- A cell under an operator and an operand. -/
abbrev Holds (op : Operator) (v w : Cell) : Prop := o.test v ⟨op, w⟩ = true

end Options

/-- One of the operators that ask for an order. -/
def Operator.IsOrdering (op : Operator) : Prop := op = .lt ∨ op = .le ∨ op = .gt ∨ op = .ge

namespace Options

variable (o : Options) {op op' : Operator}

theorem holds_iff_order? (hop : op.IsOrdering) (v w : Cell) :
    o.Holds op v w ↔ ∃ r, o.order? v w = some r ∧ op.accepts r = true := by
  have htest : o.test v ⟨op, w⟩ = ((o.order? v w).map op.accepts).getD false := by
    rcases hop with rfl | rfl | rfl | rfl <;> rfl
  unfold Holds
  rw [htest]
  cases o.order? v w with
  | none => simp
  | some r => simp

theorem holds_of_accepts (hop : op.IsOrdering) (hop' : op'.IsOrdering)
    (haccepts : ∀ r, op.accepts r = true → op'.accepts r = true) {v w : Cell}
    (h : o.Holds op v w) : o.Holds op' v w := by
  obtain ⟨r, hr, ha⟩ := (o.holds_iff_order? hop v w).mp h
  exact (o.holds_iff_order? hop' v w).mpr ⟨r, hr, haccepts r ha⟩

/-- Of two opposite operators one holds of cells that have an order. -/
theorem holds_opposite (hop : op.IsOrdering) (hop' : op'.IsOrdering)
    (hopposite : ∀ r, op'.accepts r = !op.accepts r) (v w : Cell) :
    ¬ (o.Holds op v w ∧ o.Holds op' v w) ∧
      (o.Holds op v w ∨ o.Holds op' v w ↔ Ordered v w) := by
  rw [o.holds_iff_order? hop, o.holds_iff_order? hop', ← o.order?_isSome_iff]
  simp only [hopposite]
  cases o.order? v w with
  | none => simp
  | some r => cases op.accepts r <;> simp

theorem holds_le_and_holds_ge_iff (v w : Cell) :
    o.Holds .le v w ∧ o.Holds .ge v w ↔ o.order? v w = some .eq := by
  rw [o.holds_iff_order? (Or.inr (Or.inl rfl)),
    o.holds_iff_order? (Or.inr (Or.inr (Or.inr rfl)))]
  cases o.order? v w with
  | none => simp
  | some r => cases r <;> simp [Operator.accepts]

end Options

/-! ### Equality -/

/-- A pattern of literals stands for one text. -/
theorem Wildcard.matches_literals_iff (cs ds : List Char) :
    Matches (cs.map .literal) ds ↔ ds = cs := by
  induction cs generalizing ds with
  | nil => exact matches_nil_iff ds
  | cons c cs ih =>
    constructor
    · intro h
      cases h with
      | literal _ _ ds h => rw [(ih ds).mp h]
    · rintro rfl
      exact .literal c _ _ ((ih cs).mpr rfl)

theorem not_isMark_of_mem_chars {cs : List Char} (h : ∀ c ∈ cs, isMark c = false)
    (before : List Char) : ∀ d ∈ chars before cs, isMark d = false := by
  induction cs generalizing before with
  | nil => exact fun _ hd ↦ nomatch hd
  | cons c cs ih =>
    obtain ⟨hc, hcs⟩ := List.forall_mem_cons.mp h
    rw [chars_cons]
    exact List.forall_mem_append.mpr ⟨not_isMark_of_mem_imageAt hc, ih hcs _⟩

/-- A number, a truth value, or a text that stands for no other text. -/
inductive Definite : Cell → Prop where
  | number (y : Float) : Definite (.number y)
  | int (i : Int64) : Definite (.int i)
  | boolean (b : Bool) : Definite (.boolean b)
  | text (p : String) (hne : p ≠ "") (hplain : ∀ c ∈ p.toList, isMark c = false) :
      Definite (.text p)

namespace Options

variable (o : Options)

/-- Without a wildcard a text equals what it is compared with as equal. -/
theorem holds_eq_text_iff {p : String} (hplain : ∀ c ∈ p.toList, isMark c = false) (s : String) :
    o.Holds .eq (.text s) (.text p) ↔ o.fold s = o.fold p := by
  have hfold : ∀ c ∈ (o.fold p).toList, isMark c = false := by
    unfold fold
    split
    · exact hplain
    · rw [Text.toList_lowercase]
      exact not_isMark_of_mem_chars hplain []
  have htokens := tokens_append_of_plain hfold []
  rw [List.append_nil, tokens, List.append_nil] at htokens
  rw [Holds, test_text_iff o (Or.inr rfl), htokens, matches_literals_iff, String.toList_inj]

/-- Equality to a definite operand is the order of equal cells. -/
theorem holds_eq_iff_order? {w : Cell} (hw : Definite w) (v : Cell) :
    o.Holds .eq v w ↔ o.order? v w = some .eq := by
  cases hw with
  | number y =>
    cases v with
    | number x => exact (compareFloats_eq_some_eq_iff x y).symm
    | int i => exact (compareFloats_eq_some_eq_iff (floatOfInt i) y).symm
    | _ => exact iff_of_false Bool.false_ne_true (Option.some_ne_none _).symm
  | int j =>
    cases v with
    | number x => exact (compareFloats_eq_some_eq_iff x (floatOfInt j)).symm
    | int i => exact (compareFloats_eq_some_eq_iff (floatOfInt i) (floatOfInt j)).symm
    | _ => exact iff_of_false Bool.false_ne_true (Option.some_ne_none _).symm
  | boolean b =>
    cases v with
    | boolean a =>
      change (a == b) = true ↔ some (compare a b) = some .eq
      rw [beq_iff_eq, Option.some_inj, Std.LawfulEqCmp.compare_eq_iff_eq]
    | _ => exact iff_of_false Bool.false_ne_true (Option.some_ne_none _).symm
  | text p hne hplain =>
    cases v with
    | text s =>
      change _ ↔ some (compare (o.fold s) (o.fold p)) = some .eq
      rw [o.holds_eq_text_iff hplain, Option.some_inj, Std.LawfulEqCmp.compare_eq_iff_eq]
    | _ =>
      refine iff_of_false (fun h ↦ ?_) (Option.some_ne_none _).symm
      simp [Holds, test, equals, hne] at h

end Options

/-- The comparison operators are coherent: the strict ones imply the others, one of two opposite
ones holds of cells that have an order and none of any others, `<>` is the opposite of `=`, and `=`
holds where both `<=` and `>=` do, unless the operand is a pattern. -/
theorem comparisons_coherent (o : Options) (v w : Cell) :
    (o.Holds .lt v w → o.Holds .le v w) ∧ (o.Holds .gt v w → o.Holds .ge v w) ∧
      ¬ (o.Holds .lt v w ∧ o.Holds .ge v w) ∧ ¬ (o.Holds .gt v w ∧ o.Holds .le v w) ∧
      (o.Holds .lt v w ∨ o.Holds .ge v w ↔ Ordered v w) ∧
      (o.Holds .gt v w ∨ o.Holds .le v w ↔ Ordered v w) ∧
      (o.Holds .ne v w ↔ ¬ o.Holds .eq v w) ∧
      (Definite w → (o.Holds .le v w ∧ o.Holds .ge v w ↔ o.Holds .eq v w)) := by
  have hlt : Operator.IsOrdering .lt := Or.inl rfl
  have hle : Operator.IsOrdering .le := Or.inr (Or.inl rfl)
  have hgt : Operator.IsOrdering .gt := Or.inr (Or.inr (Or.inl rfl))
  have hge : Operator.IsOrdering .ge := Or.inr (Or.inr (Or.inr rfl))
  obtain ⟨hltge, hltgeOrdered⟩ := o.holds_opposite hlt hge (by decide) v w
  obtain ⟨hgtle, hgtleOrdered⟩ := o.holds_opposite hgt hle (by decide) v w
  refine ⟨o.holds_of_accepts hlt hle (by decide), o.holds_of_accepts hgt hge (by decide), hltge,
    hgtle, hltgeOrdered, hgtleOrdered, ?_, fun hw ↦ ?_⟩
  · unfold Options.Holds
    rw [Options.test_ne, Bool.not_eq_true', Bool.not_eq_true]
  · rw [o.holds_le_and_holds_ge_iff, o.holds_eq_iff_order? hw]

/-- A text in another case is neither before nor behind the operand, and equals it. -/
theorem comparisons_of_other_case :
    Definite (.text "Pear") ∧ Options.Holds {} .eq (.text "PEAR") (.text "Pear") ∧
      Options.Holds {} .le (.text "PEAR") (.text "Pear") ∧
      Options.Holds {} .ge (.text "PEAR") (.text "Pear") := by
  have hplain : ∀ c ∈ "Pear".toList, isMark c = false := by simp [isMark]
  have hdefinite : Definite (.text "Pear") := .text "Pear" (by decide) hplain
  have heq : Options.Holds {} .eq (.text "PEAR") (.text "Pear") :=
    (Options.holds_eq_text_iff {} hplain "PEAR").mpr (by decide +kernel)
  obtain ⟨-, -, -, -, -, -, -, hagree⟩ := comparisons_coherent {} (.text "PEAR") (.text "Pear")
  exact ⟨hdefinite, heq, (hagree hdefinite).mpr heq⟩

end Worksheet.Criteria
