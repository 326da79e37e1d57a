import Worksheet.Database.Query
import Worksheet.Proofs.Decimal.NearestInteger
import Worksheet.Proofs.Decimal.PlainNumbers

/-!
Criteria cells that hold a number or a truth value.

A criteria cell is read as the condition that its text states. The text of a number begins with no
operator and is read as the number again, and no star is put behind it, so that the cell asks for
that number (`asksForNumber_of_text`): of an integer for the double nearest to it, of a finite
double for the double itself. Two integers are one to a criterion when they share their nearest
double, which no two integers do if one of them is below `2 ^ 53` in size
(`acceptsUnder_int_iff_nearest`).
-/

set_option autoImplicit false
set_option relaxedAutoImplicit false

namespace Worksheet.Database

open Criteria Decimal

/-! ### The text of a number as a criterion -/

theorem splitChars_cons {c : Char} (hlt : c ≠ '<') (hgt : c ≠ '>') (heq : c ≠ '=')
    (cs : List Char) : Operator.splitChars (c :: cs) = (.bare, c :: cs) := by
  unfold Operator.splitChars
  split <;> simp_all

/-- A number begins with a minus or with a digit, and so with no operator. -/
theorem splitChars_text {n : Numeral} (h : n.Storable) :
    Operator.splitChars n.text = (.bare, n.text) := by
  obtain ⟨c, cs, htext, hc⟩ := Json.exists_numeral_text h
  have hne (d : Char) (hd : ¬ (d = '-' ∨ Json.Lexer.isDigit d = true)) : c ≠ d :=
    fun heq ↦ hd (heq ▸ hc)
  rw [htext]
  exact splitChars_cons (hne '<' (by decide)) (hne '>' (by decide)) (hne '=' (by decide)) cs

theorem parse_text {n : Numeral} (h : n.Storable) {x : Float} (hread : n.toFloat? = some x) :
    Options.parse (String.ofList n.text) = ⟨.bare, .number x⟩ := by
  unfold Options.parse Operator.split
  rw [String.toList_ofList, splitChars_text h]
  dsimp only
  unfold Options.operandOf
  rw [wholeNumber?_text h, hread]

/-- The number of a numeric cell, or the one that the whole text of a cell is. -/
inductive NumberOf : Cell → Float → Prop where
  | int (i : Int64) : NumberOf (.int i) (floatOfInt i)
  | number (x : Float) : NumberOf (.number x) x
  | text {s : String} {x : Float} (h : wholeNumber? s = some x) : NumberOf (.text s) x

theorem test_bare_number_iff (o : Options) (v : Cell) (x : Float) :
    o.test v ⟨.bare, .number x⟩ = true ↔ ∃ y, NumberOf v y ∧ (y == x) = true := by
  cases v with
  | int i =>
    refine ⟨fun h ↦ ⟨_, .int i, h⟩, ?_⟩
    rintro ⟨y, ⟨⟩, h⟩
    exact h
  | number y =>
    refine ⟨fun h ↦ ⟨_, .number y, h⟩, ?_⟩
    rintro ⟨z, ⟨⟩, h⟩
    exact h
  | text s =>
    change ((wholeNumber? s).map (· == x)).getD false = true ↔ _
    constructor
    · intro h
      cases hread : wholeNumber? s with
      | none => rw [hread] at h; cases h
      | some y => exact ⟨y, .text hread, by rwa [hread] at h⟩
    · rintro ⟨y, hnumber, h⟩
      cases hnumber with
      | text hread =>
        rw [hread]
        exact h
  | _ =>
    refine iff_of_false (fun h ↦ nomatch h) ?_
    rintro ⟨y, ⟨⟩, -⟩

/-- The criteria cell accepts the value, as the standard matcher reads and tests. -/
abbrev AcceptsUnder (o : Options) (cell v : Cell) : Prop :=
  (CellTest.ofCell (Matcher.standard o) cell).accepts (Matcher.standard o) v = true

/-- What a criteria cell that stands for a number comes to. -/
structure AsksForNumber (o : Options) (cell : Cell) (x : Float) : Prop where
  /-- The text of the cell is read as the number, without an operator. -/
  parse_display : Options.parse cell.display = ⟨.bare, .number x⟩
  /-- The condition is left as it is read. -/
  ofCell_eq : CellTest.ofCell (Matcher.standard o) cell = .holds ⟨.bare, .number x⟩
  /-- Cells with an equal number are accepted, and no others. -/
  accepts_iff : ∀ v : Cell, AcceptsUnder o cell v ↔ ∃ y, NumberOf v y ∧ (y == x) = true

theorem openEnd_of_ne_text (op : Operator) {operand : Cell} (h : ∀ s, operand ≠ .text s) :
    Condition.openEnd ⟨op, operand⟩ = ⟨op, operand⟩ := by
  unfold Condition.openEnd
  split
  · next s _ hs => exact absurd hs (h s)
  · rfl

/-- Only a text is opened at its end. -/
theorem ofCell_of_parse (o : Options) {cell : Cell} (herror : cell.isError = false)
    (hdisplay : cell.display ≠ "") {op : Operator} {operand : Cell}
    (hparse : Options.parse cell.display = ⟨op, operand⟩) (hoperand : ∀ s, operand ≠ .text s) :
    CellTest.ofCell (Matcher.standard o) cell = .holds ⟨op, operand⟩ := by
  have hparse' : (Matcher.standard o).parse cell.display = ⟨op, operand⟩ := hparse
  have hempty : cell.display.isEmpty = false := by simpa using hdisplay
  unfold CellTest.ofCell
  rw [herror, if_neg Bool.false_ne_true]
  dsimp only
  rw [hempty, if_neg Bool.false_ne_true, hparse', openEnd_of_ne_text op hoperand, ite_self]

/-- A cell with the text of a number asks for that number. -/
theorem asksForNumber_of_text (o : Options) {cell : Cell} (herror : cell.isError = false)
    {n : Numeral} (h : n.Storable) (hdisplay : cell.display.toList = n.text) {x : Float}
    (hread : n.toFloat? = some x) : AsksForNumber o cell x := by
  have hparse : Options.parse cell.display = ⟨.bare, .number x⟩ := by
    rw [← String.ofList_toList (s := cell.display), hdisplay]
    exact parse_text h hread
  have hne : cell.display ≠ "" := by
    obtain ⟨c, cs, htext, -⟩ := Json.exists_numeral_text h
    intro hempty
    rw [hempty, htext] at hdisplay
    cases hdisplay
  have hofCell := ofCell_of_parse o herror hne hparse fun s hs ↦ nomatch hs
  refine ⟨hparse, hofCell, fun v ↦ ?_⟩
  rw [AcceptsUnder, hofCell]
  exact test_bare_number_iff o v x

theorem asksForNumber_int (o : Options) (i : Int64) : AsksForNumber o (.int i) (floatOfInt i) := by
  refine asksForNumber_of_text o rfl (Numeral.storable_ofInt i.toInt) ?_ (toFloat?_ofInt i)
  rw [Numeral.text_ofInt]
  exact String.toList_ofList

theorem asksForNumber_number (o : Options) {x : Float} (hfinite : x.isFinite = true) :
    AsksForNumber o (.number x) x := by
  obtain ⟨n, hn, hwrite, hread⟩ := exists_numeral_of_isFinite legible_plain hfinite
  have hdisplay : (Cell.number x).display.toList = n.text := hwrite
  exact asksForNumber_of_text o rfl hn hdisplay hread

/-- The texts of the truth values are read as truth values. -/
theorem ofCell_boolean (o : Options) (b : Bool) :
    CellTest.ofCell (Matcher.standard o) (.boolean b) = .holds ⟨.bare, .boolean b⟩ := by
  have hparse : Options.parse (Cell.boolean b).display = ⟨.bare, .boolean b⟩ := by
    cases b <;> rfl
  have hne : (Cell.boolean b).display ≠ "" := by
    cases b <;> decide
  exact ofCell_of_parse o rfl hne hparse fun s hs ↦ nomatch hs

theorem acceptsUnder_boolean_iff (o : Options) (b : Bool) (v : Cell) :
    AcceptsUnder o (.boolean b) v ↔ v = .boolean b := by
  rw [AcceptsUnder, ofCell_boolean]
  change o.test v ⟨.bare, .boolean b⟩ = true ↔ _
  cases v with
  | boolean a =>
    change (a == b) = true ↔ _
    rw [beq_iff_eq, Cell.boolean.injEq]
  | _ => exact iff_of_false (fun h ↦ nomatch h) fun h ↦ nomatch h

/-- Typed criteria cells keep their meaning through their text: an integer asks for its double and
a finite double for itself, without an operator and without a star, and a truth value is accepted
by the cell of that truth value alone. -/
theorem typed_cells_keep_meaning (o : Options) :
    (∀ i : Int64, AsksForNumber o (.int i) (floatOfInt i)) ∧
      (∀ x : Float, x.isFinite = true → AsksForNumber o (.number x) x) ∧
      ∀ (b : Bool) (v : Cell), AcceptsUnder o (.boolean b) v ↔ v = .boolean b :=
  ⟨asksForNumber_int o, fun _ ↦ asksForNumber_number o, acceptsUnder_boolean_iff o⟩

/-- The least positive double is asked for through its text, which has more than three hundred
zeros before its digit. -/
theorem typed_least_double :
    (5e-324 : Float).isFinite = true ∧ AsksForNumber {} (.number 5e-324) 5e-324 := by
  have hfinite : (5e-324 : Float).isFinite = true := by decide +kernel
  exact ⟨hfinite, (typed_cells_keep_meaning {}).2.1 5e-324 hfinite⟩

/-! ### Integers -/

theorem acceptsUnder_int_iff (o : Options) (i j : Int64) :
    AcceptsUnder o (.int i) (.int j) ↔ floatOfInt i = floatOfInt j := by
  rw [(asksForNumber_int o i).accepts_iff, eq_comm, ← floatOfInt_beq_iff]
  constructor
  · rintro ⟨y, ⟨⟩, h⟩
    exact h
  · exact fun h ↦ ⟨_, .int j, h⟩

/-- An integer criterion accepts itself, and any integer with the same nearest double. Of two
integers that are not both at least `2 ^ 53` in size, it accepts only the same one. -/
theorem acceptsUnder_int_iff_nearest (o : Options) (i j : Int64) :
    (i = j → AcceptsUnder o (.int i) (.int j)) ∧
      (AcceptsUnder o (.int i) (.int j) ↔
        ∃ x, IsNearestToInt i.toInt x ∧ IsNearestToInt j.toInt x) ∧
      (i.toInt.natAbs < 2 ^ 53 ∨ j.toInt.natAbs < 2 ^ 53 →
        (AcceptsUnder o (.int i) (.int j) ↔ i = j)) := by
  simp only [acceptsUnder_int_iff, isNearestToInt_iff]
  refine ⟨congrArg floatOfInt, ?_, floatOfInt_eq_iff⟩
  constructor
  · exact fun h ↦ ⟨_, rfl, h.symm⟩
  · rintro ⟨x, rfl, h⟩
    exact h.symm

/-- A criterion at the bound tells the integers below it apart from itself. -/
theorem acceptsUnder_int_below_bound :
    (9007199254740991 : Int64).toInt.natAbs < 2 ^ 53 ∧
      ¬ AcceptsUnder {} (.int 9007199254740992) (.int 9007199254740991) := by
  have hbelow : (9007199254740991 : Int64).toInt.natAbs < 2 ^ 53 := by decide
  obtain ⟨-, -, hexact⟩ :=
    acceptsUnder_int_iff_nearest {} 9007199254740992 9007199254740991
  refine ⟨hbelow, fun haccepts ↦ ?_⟩
  have heq := (hexact (Or.inr hbelow)).mp haccepts
  exact absurd heq (by decide)

/-- At the bound two integers are one to a criterion. -/
theorem acceptsUnder_int_at_bound :
    ¬ (AcceptsUnder {} (.int 9007199254740992) (.int 9007199254740993) ↔
      (9007199254740992 : Int64) = 9007199254740993) := by
  have hfloat : floatOfInt 9007199254740992 = floatOfInt 9007199254740993 := by decide +kernel
  rw [acceptsUnder_int_iff]
  exact fun h ↦ absurd (h.mp hfloat) (by decide)

end Worksheet.Database
