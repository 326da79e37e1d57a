import Mathlib.Data.List.Basic
import Worksheet.Criteria.Operator

/-!
The operator of a criteria text is the longest one that the text begins with.

Some operators are prefixes of others, so the order in which a text is tested for them decides.
The longer ones come first (`inOrder_pairwise`), so the first operator found is a longest one
(`length_le_of_begins`). An operator in front of a rest is therefore split off again exactly when
the rest does not extend it to another operator (`splitChars_append_iff`), and as operators are
extended by one character at a time, the first character of the rest tells (`extends_iff`).
-/

set_option autoImplicit false
set_option relaxedAutoImplicit false

namespace Worksheet.Criteria.Operator

/-! ### The longest operator -/

/-- The operators in the order in which a text is tested for them. The bare one fits every text. -/
def inOrder : List Operator := [le, ge, ne, eq, lt, gt, bare]

theorem mem_inOrder (op : Operator) : op ∈ inOrder := by cases op <;> decide

theorem inOrder_pairwise :
    inOrder.Pairwise fun op other ↦ other.chars.length ≤ op.chars.length := by
  decide

theorem chars_injective {op other : Operator} (h : op.chars = other.chars) : op = other := by
  cases op <;> cases other <;> first | rfl | cases h

/-- The operator split off is the first in order that begins the text. -/
theorem find?_inOrder (cs : List Char) :
    inOrder.find? (fun op ↦ op.chars.isPrefixOf cs) = some (splitChars cs).1 := by
  fun_cases splitChars cs with
  | case1 => rfl
  | case2 => rfl
  | case3 => rfl
  | case4 => rfl
  | case5 rest hle hne =>
    cases rest with
    | nil => rfl
    | cons c rest =>
      have heq : '=' ≠ c := fun h ↦ hle rest (h ▸ rfl)
      have hgt : '>' ≠ c := fun h ↦ hne rest (h ▸ rfl)
      simp [inOrder, chars, heq, hgt]
  | case6 rest hge =>
    cases rest with
    | nil => rfl
    | cons c rest =>
      have heq : '=' ≠ c := fun h ↦ hge rest (h ▸ rfl)
      simp [inOrder, chars, heq]
  | case7 cs _ _ _ heq hlt hgt =>
    cases cs with
    | nil => rfl
    | cons c rest =>
      have heq : '=' ≠ c := fun h ↦ heq rest (h ▸ rfl)
      have hlt : '<' ≠ c := fun h ↦ hlt rest (h ▸ rfl)
      have hgt : '>' ≠ c := fun h ↦ hgt rest (h ▸ rfl)
      simp [inOrder, chars, heq, hlt, hgt]

/-- No operator that begins a text is longer than the one split off. -/
theorem length_le_of_begins {op : Operator} {cs : List Char} (h : op.chars <+: cs) :
    op.chars.length ≤ (splitChars cs).1.chars.length := by
  obtain ⟨-, before, after, hsplit, hbefore⟩ :=
    List.find?_eq_some_iff_append.mp (find?_inOrder cs)
  have hpairwise := inOrder_pairwise
  have hmem := mem_inOrder op
  rw [hsplit] at hpairwise hmem
  rcases List.mem_append.mp hmem with hfirst | hrest
  · have hno := hbefore op hfirst
    rw [List.isPrefixOf_iff_prefix.mpr h] at hno
    cases hno
  · rcases List.mem_cons.mp hrest with rfl | hlater
    · exact Nat.le_refl _
    · exact List.rel_of_pairwise_cons (List.pairwise_append.mp hpairwise).2.1 hlater

theorem splitChars_begins (cs : List Char) : (splitChars cs).1.chars <+: cs :=
  ⟨(splitChars cs).2, chars_append_splitChars cs⟩

/-! ### What does not extend an operator -/

/-- Behind the operator the text goes on so that it begins with another, longer operator. -/
def Extends (op : Operator) (rest : List Char) : Prop :=
  ∃ other, other ≠ op ∧ op.chars <+: other.chars ∧ other.chars <+: op.chars ++ rest

theorem splitChars_append_iff (op : Operator) (rest : List Char) :
    splitChars (op.chars ++ rest) = (op, rest) ↔ ¬ op.Extends rest := by
  constructor
  · rintro hsplit ⟨other, hne, hbegins, hother⟩
    have hle := length_le_of_begins hother
    rw [hsplit] at hle
    exact hne (chars_injective (hbegins.eq_of_length (Nat.le_antisymm hbegins.length_le hle))).symm
  · intro hextends
    have hop : op.chars <+: op.chars ++ rest := List.prefix_append _ _
    have hsplit := splitChars_begins (op.chars ++ rest)
    have hfirst : (splitChars (op.chars ++ rest)).1 = op := by
      by_contra hne
      exact hextends ⟨_, hne,
        List.prefix_of_prefix_length_le hop hsplit (length_le_of_begins hop), hsplit⟩
    have happend := chars_append_splitChars (op.chars ++ rest)
    rw [hfirst] at happend
    exact Prod.ext hfirst (List.append_cancel_left happend)

/-- The characters that extend an operator. -/
def continuations : Operator → List Char
  | bare => ['=', '<', '>']
  | lt => ['=', '>']
  | gt => ['=']
  | eq | ne | le | ge => []

-- Over lists, not over characters: all characters are too many to decide.
theorem any_continuations : ∀ op ∈ inOrder, ∀ other ∈ inOrder, other ≠ op →
    op.chars <+: other.chars →
      (op.continuations.any fun c ↦ (op.chars ++ [c]).isPrefixOf other.chars) = true := by
  decide

theorem all_continuations : ∀ op ∈ inOrder,
    (op.continuations.all fun c ↦ inOrder.any fun other ↦ other.chars == op.chars ++ [c]) =
      true := by
  decide

/-- Operators are extended by one character at a time. -/
theorem exists_continuation {op other : Operator} (hne : other ≠ op)
    (h : op.chars <+: other.chars) : ∃ c ∈ op.continuations, op.chars ++ [c] <+: other.chars := by
  obtain ⟨c, hc, hlonger⟩ := List.any_eq_true.mp
    (any_continuations op (mem_inOrder op) other (mem_inOrder other) hne h)
  exact ⟨c, hc, List.isPrefixOf_iff_prefix.mp hlonger⟩

theorem exists_chars_eq_concat {op : Operator} {c : Char} (hc : c ∈ op.continuations) :
    ∃ other : Operator, other.chars = op.chars ++ [c] := by
  have hany := List.all_eq_true.mp (all_continuations op (mem_inOrder op)) c hc
  obtain ⟨other, -, hchars⟩ := List.any_eq_true.mp hany
  exact ⟨other, eq_of_beq hchars⟩

theorem extends_iff (op : Operator) (rest : List Char) :
    op.Extends rest ↔ ∃ c ∈ op.continuations, rest.head? = some c := by
  constructor
  · rintro ⟨other, hne, hbegins, hother⟩
    obtain ⟨c, hc, hlonger⟩ := exists_continuation hne hbegins
    obtain ⟨tail, rfl⟩ : [c] <+: rest :=
      (List.prefix_append_right_inj op.chars).mp (hlonger.trans hother)
    exact ⟨c, hc, rfl⟩
  · rintro ⟨c, hc, hhead⟩
    obtain ⟨other, hchars⟩ := exists_chars_eq_concat hc
    obtain ⟨tail, rfl⟩ := List.head?_eq_some_iff.mp hhead
    refine ⟨other, ?_, ?_, ?_⟩
    · rintro rfl
      exact List.cons_ne_nil c [] (List.self_eq_append_right.mp hchars)
    · rw [hchars]
      exact List.prefix_append _ _
    · rw [hchars, List.prefix_append_right_inj]
      exact List.prefix_append [c] tail

/-! ### Texts -/

theorem split_eq_iff (s : String) (op : Operator) (rest : String) :
    split s = (op, rest) ↔ splitChars s.toList = (op, rest.toList) := by
  rw [Prod.ext_iff, Prod.ext_iff]
  change (splitChars s.toList).1 = op ∧ String.ofList (splitChars s.toList).2 = rest ↔ _
  rw [← String.toList_inj, String.toList_ofList]

/-- The operator split off and the rest are the text, and no longer operator begins it. An operator
in front of a rest is split off again exactly when the rest does not extend it to another operator,
by one of its continuations. -/
theorem split_longest :
    (∀ (s : String) (op : Operator) (rest : String), split s = (op, rest) →
      op.text ++ rest = s ∧
        ∀ longer : Operator, op.text.length < longer.text.length →
          ¬ ∃ tail, s = longer.text ++ tail) ∧
      ∀ (op : Operator) (rest : String),
        (split (op.text ++ rest) = (op, rest) ↔ ¬ op.Extends rest.toList) ∧
          (op.Extends rest.toList ↔ ∃ c ∈ op.continuations, rest.toList.head? = some c) := by
  constructor
  · intro s op rest hsplit
    rw [split_eq_iff] at hsplit
    have happend := chars_append_splitChars s.toList
    rw [hsplit] at happend
    constructor
    · rw [text, ← String.toList_inj, String.toList_append, String.toList_ofList]
      exact happend
    · rintro longer hlength ⟨tail, rfl⟩
      have hbegins : longer.chars <+: (longer.text ++ tail).toList := by
        rw [String.toList_append, text, String.toList_ofList]
        exact List.prefix_append _ _
      have hle := length_le_of_begins hbegins
      rw [hsplit] at hle
      rw [text, text, String.length_ofList, String.length_ofList] at hlength
      exact absurd hlength (Nat.not_lt_of_le hle)
  · intro op rest
    rw [split_eq_iff, String.toList_append, text, String.toList_ofList, splitChars_append_iff]
    exact ⟨Iff.rfl, extends_iff op rest.toList⟩

end Worksheet.Criteria.Operator
