import Worksheet.Json.Fields
import Worksheet.Proofs.Decimal.Numerals

/-!
Numbers as they are stored.

A stored number has a minus or no sign, digits without idle zeros, a fraction only if it has digits
and an exponent only with a sign. The scanner of decimals takes such a number apart into the parts
it was written from (`scan_text`), and the lexer takes it whole, up to the comma or the bracket
behind it (`number?_text`).
-/

set_option autoImplicit false
set_option relaxedAutoImplicit false

namespace Worksheet.Decimal

open Json

/-! ### Runs of digits -/

theorem isDigit_iff (c : Char) : Lexer.isDigit c = true ↔ '0' ≤ c ∧ c ≤ '9' := by
  simp [Lexer.isDigit]

theorem textIsDigit_of_isDigit {c : Char} (h : Lexer.isDigit c = true) : Text.isDigit c = true :=
  Text.isDigit_of_ascii c ((isDigit_iff c).mp h)

theorem isDigit_of_charIsDigit {c : Char} (h : c.isDigit = true) : Lexer.isDigit c = true := by
  have hrange : 48 ≤ c.val ∧ c.val ≤ 57 := by simpa [Char.isDigit] using h
  exact (isDigit_iff c).mpr hrange

theorem isDigit_of_mem_natText {n : Nat} {c : Char} (h : c ∈ natText n) :
    Lexer.isDigit c = true :=
  isDigit_of_charIsDigit (Nat.isDigit_of_mem_toDigits (by decide) (by decide) h)

theorem ne_of_isDigit {c d : Char} (hc : Lexer.isDigit c = true) (hd : Lexer.isDigit d = false) :
    c ≠ d := by
  rintro rfl
  exact Bool.false_ne_true (hd.symm.trans hc)

namespace Numeral

/-- A point and the digits behind it; nothing where there are none. -/
def fractionText (ds : List Char) : List Char := if ds.isEmpty then [] else '.' :: ds

/-- An exponent is written with its sign, and not at all where it has no digits. -/
def exponentText (negative : Bool) (ds : List Char) : List Char :=
  if ds.isEmpty then [] else 'e' :: (if negative then '-' else '+') :: ds

/-- The number as it is stored. -/
def text (n : Numeral) : List Char :=
  (if n.negative then ['-'] else []) ++
    (n.whole ++ (fractionText n.fraction ++ exponentText n.exponentNegative n.exponent))

/-- The parts of a number that can be stored. -/
structure Storable (n : Numeral) : Prop where
  whole : ∀ c ∈ n.whole, Lexer.isDigit c = true
  fraction : ∀ c ∈ n.fraction, Lexer.isDigit c = true
  exponent : ∀ c ∈ n.exponent, Lexer.isDigit c = true
  leading : n.whole = ['0'] ∨ ∃ d ds, n.whole = d :: ds ∧ d ≠ '0'
  exponentSign : n.exponent = [] → n.exponentNegative = false

namespace Storable

variable {n : Numeral}

theorem exists_whole (h : n.Storable) : ∃ d ds, n.whole = d :: ds := by
  rcases h.leading with hzero | ⟨d, ds, hwhole, -⟩
  · exact ⟨'0', [], hzero⟩
  · exact ⟨d, ds, hwhole⟩

end Storable

/-! ### The scanner of decimals -/

theorem Storable.spellsMantissa {n : Numeral} (h : n.Storable) :
    SpellsMantissa n.whole n.fraction (n.whole ++ fractionText n.fraction) := by
  obtain ⟨d, ds, hwhole⟩ := h.exists_whole
  have hdigits : Digits n.whole :=
    ⟨hwhole ▸ List.cons_ne_nil d ds, fun c hc ↦ textIsDigit_of_isDigit (h.whole c hc)⟩
  have hfraction := h.fraction
  generalize n.fraction = fraction at *
  cases fraction with
  | nil =>
    rw [show fractionText [] = [] from rfl, List.append_nil]
    exact .whole hdigits
  | cons f fs => exact .point hdigits fun c hc ↦ textIsDigit_of_isDigit (hfraction c hc)

theorem Storable.spellsExponent {n : Numeral} (h : n.Storable) :
    SpellsExponent n.exponentNegative n.exponent
      (exponentText n.exponentNegative n.exponent) := by
  have hdigit := h.exponent
  have hsign := h.exponentSign
  generalize n.exponent = ds, n.exponentNegative = negative at *
  cases ds with
  | nil =>
    rw [hsign rfl]
    exact .none
  | cons d ds =>
    have hdigits : Digits (d :: ds) :=
      ⟨List.cons_ne_nil d ds, fun c hc ↦ textIsDigit_of_isDigit (hdigit c hc)⟩
    cases negative with
    | false => exact .some (Or.inl rfl) .plus hdigits
    | true => exact .some (Or.inl rfl) .minus hdigits

/-- A stored number is a numeral. -/
theorem Storable.spells {n : Numeral} (h : n.Storable) : n.Spells n.text := by
  have hsign : SpellsSign n.negative (if n.negative then ['-'] else []) := by
    cases n.negative with
    | false => exact .none
    | true => exact .minus
  unfold text
  rw [← List.append_assoc n.whole]
  exact .intro hsign h.spellsMantissa h.spellsExponent

/-- The scanner gives the parts back. -/
theorem scan_text {n : Numeral} (h : n.Storable) : scan n.text = some (n, []) :=
  scan_of_spells h.spells

end Numeral

/-! ### The lexer -/

namespace Numeral

theorem digits_of_stops {ds rest : List Char} (hds : ∀ c ∈ ds, Lexer.isDigit c = true)
    (hrest : Stops Lexer.isDigit rest) : Lexer.digits (ds ++ rest) = (ds, rest) :=
  Prod.ext (takeWhile_of_stops hds hrest) (dropWhile_of_stops hds hrest)

theorem whole?_of_stops {n : Numeral} (h : n.Storable) {rest : List Char}
    (hrest : Stops Lexer.isDigit rest) : Lexer.whole? (n.whole ++ rest) = some (n.whole, rest) := by
  rcases h.leading with hzero | ⟨d, ds, hwhole, hne⟩
  · rw [hzero]
    rfl
  · have hdigits : ∀ c ∈ d :: ds, Lexer.isDigit c = true := hwhole ▸ h.whole
    rw [hwhole, List.cons_append]
    unfold Lexer.whole?
    split
    · next hcons => exact absurd (List.cons.inj hcons).1 hne
    · next hcons =>
      obtain ⟨rfl, rfl⟩ := List.cons.inj hcons
      rw [if_pos (hdigits _ List.mem_cons_self), ← List.cons_append, digits_of_stops hdigits hrest]
    · next hnil => cases hnil

theorem fraction?_of_stops {ds rest : List Char} (hds : ∀ c ∈ ds, Lexer.isDigit c = true)
    (hrest : Stops (fun c ↦ Lexer.isDigit c || c == '.') rest) :
    Lexer.fraction? (fractionText ds ++ rest) = some (fractionText ds, rest) := by
  have hdigit : Stops Lexer.isDigit rest := fun c hc ↦ (Bool.or_eq_false_iff.mp (hrest c hc)).1
  cases ds with
  | nil =>
    rw [show fractionText [] ++ rest = rest from rfl]
    unfold Lexer.fraction?
    split
    · simpa using stops_cons.mp hrest
    · rfl
  | cons d ds =>
    change (if (Lexer.digits (d :: ds ++ rest)).1.isEmpty = true then none else
      some ('.' :: (Lexer.digits (d :: ds ++ rest)).1, (Lexer.digits (d :: ds ++ rest)).2)) = _
    rw [digits_of_stops hds hdigit]
    rfl

theorem exponent?_of_stops {negative : Bool} {ds rest : List Char}
    (hds : ∀ c ∈ ds, Lexer.isDigit c = true)
    (hrest : Stops (fun c ↦ Lexer.isDigit c || c == 'e' || c == 'E') rest) :
    Lexer.exponent? (exponentText negative ds ++ rest) = some (exponentText negative ds, rest) := by
  cases ds with
  | nil =>
    cases rest with
    | nil => rfl
    | cons c rest =>
      obtain ⟨hc, hcapital⟩ := Bool.or_eq_false_iff.mp (stops_cons.mp hrest)
      have hsmall := (Bool.or_eq_false_iff.mp hc).2
      have hmark : ¬ (c = 'e' ∨ c = 'E') := by simpa using And.intro hsmall hcapital
      exact if_neg hmark
  | cons d ds =>
    have hdigit : Stops Lexer.isDigit rest := fun c hc ↦
      (Bool.or_eq_false_iff.mp (Bool.or_eq_false_iff.mp (hrest c hc)).1).1
    have hsign : Lexer.exponentSign ((if negative then '-' else '+') :: (d :: ds ++ rest)) =
        ([if negative then '-' else '+'], d :: ds ++ rest) := by
      cases negative <;> rfl
    change Lexer.exponent? ('e' :: (if negative then '-' else '+') :: (d :: ds ++ rest)) = _
    unfold Lexer.exponent?
    dsimp only
    rw [if_pos (Or.inl rfl), hsign]
    dsimp only
    rw [digits_of_stops hds hdigit]
    rfl

theorem sign_of_digit {d : Char} (hd : Lexer.isDigit d = true) (cs : List Char) :
    Lexer.sign (d :: cs) = ([], d :: cs) := by
  have hminus : d ≠ '-' := ne_of_isDigit hd (by decide)
  unfold Lexer.sign
  split
  · next h => exact absurd (List.cons.inj h).1 hminus
  · rfl

/-- What may stand behind a number: nothing, a comma or a closing bracket. -/
def Follows (rest : List Char) : Prop := ∀ c ∈ rest.head?, c = ',' ∨ c = ']' ∨ c = '\x7d'

theorem Follows.stops {rest : List Char} (h : Follows rest) {p : Char → Bool}
    (hcomma : p ',' = false) (hbracket : p ']' = false) (hbrace : p '\x7d' = false) :
    Stops p rest := by
  intro c hc
  rcases h c hc with rfl | rfl | rfl
  · exact hcomma
  · exact hbracket
  · exact hbrace

theorem stops_append {p : Char → Bool} {cs rest : List Char} (hcs : Stops p cs)
    (hrest : Stops p rest) : Stops p (cs ++ rest) := by
  cases cs with
  | nil => exact hrest
  | cons c cs => exact stops_cons.mpr (stops_cons.mp hcs)

/-- The lexer takes a stored number whole. -/
theorem number?_text {n : Numeral} (h : n.Storable) {rest : List Char} (hrest : Follows rest) :
    Lexer.number? (n.text ++ rest) = some (n.text, rest) := by
  obtain ⟨d, ds, hwhole⟩ := h.exists_whole
  have hd : Lexer.isDigit d = true := h.whole d (hwhole ▸ List.mem_cons_self)
  have hsign : Lexer.sign (n.text ++ rest) =
      (if n.negative then ['-'] else [], n.whole ++ (fractionText n.fraction ++
        (exponentText n.exponentNegative n.exponent ++ rest))) := by
    unfold text
    cases hnegative : n.negative with
    | false =>
      simp only [hwhole, Bool.false_eq_true, if_false, List.nil_append, List.cons_append,
        List.append_assoc]
      exact sign_of_digit hd _
    | true =>
      simp only [if_true, List.append_assoc]
      rfl
  have hexponent : Stops (fun c ↦ Lexer.isDigit c || c == '.')
      (exponentText n.exponentNegative n.exponent ++ rest) := by
    refine stops_append ?_ (hrest.stops (by decide) (by decide) (by decide))
    cases n.exponent with
    | nil => exact stops_nil _
    | cons e es => exact stops_cons.mpr (by decide)
  have hfraction : Stops Lexer.isDigit (fractionText n.fraction ++
      (exponentText n.exponentNegative n.exponent ++ rest)) := by
    refine stops_append ?_ fun c hc ↦ (Bool.or_eq_false_iff.mp (hexponent c hc)).1
    cases n.fraction with
    | nil => exact stops_nil _
    | cons f fs => exact stops_cons.mpr (by decide)
  unfold Lexer.number?
  rw [hsign]
  dsimp only
  rw [whole?_of_stops h hfraction]
  dsimp only [Option.bind_eq_bind, Option.bind_some]
  rw [fraction?_of_stops h.fraction hexponent]
  dsimp only [Option.bind_some]
  rw [exponent?_of_stops h.exponent (hrest.stops (by decide) (by decide) (by decide))]
  dsimp only [Option.bind_some, text]
  simp only [Option.pure_def, List.append_assoc]

end Numeral

/-! ### The values of digits -/

theorem natValue?_of_isDigit {ds : List Char} (h : ∀ c ∈ ds, Lexer.isDigit c = true) :
    natValue? ds = some (Nat.ofDigitChars 10 ds 0) :=
  natValue?_eq_some_iff.mpr ⟨fun c hc ↦ (isDigit_iff c).mp (h c hc), rfl⟩

theorem natValue?_natText (n : Nat) : natValue? (natText n) = some n := by
  rw [natValue?_of_isDigit fun c ↦ isDigit_of_mem_natText]
  exact congrArg some Nat.ofDigitChars_ten_toDigits

/-- A positive number does not begin with a zero. -/
theorem exists_natText_of_pos {n : Nat} (hpos : 0 < n) :
    ∃ d ds, natText n = d :: ds ∧ d ≠ '0' := by
  induction n using Nat.strongRecOn with
  | _ n ih =>
    rcases Nat.lt_or_ge n 10 with hsmall | hlarge
    · refine ⟨n.digitChar, [], Nat.toDigits_of_lt_base hsmall, fun hzero ↦ ?_⟩
      have hcode := Nat.toNat_digitChar_of_lt_ten hsmall
      rw [hzero] at hcode
      change 48 = 48 + n at hcode
      omega
    · obtain ⟨d, ds, htext, hd⟩ := ih (n / 10) (by omega) (by omega)
      refine ⟨d, ds ++ [Nat.digitChar (n % 10)], ?_, hd⟩
      rw [natText, Nat.toDigits_of_base_le (by decide) hlarge]
      exact congrArg (· ++ [Nat.digitChar (n % 10)]) htext

/-! ### Integers -/

namespace Numeral

def ofInt (i : Int) : Numeral where
  negative := decide (i < 0)
  whole := natText i.natAbs
  fraction := []
  exponentNegative := false
  exponent := []

theorem text_ofInt (i : Int) : (ofInt i).text = integerText i := by
  have hpoint : fractionText [] ++ exponentText false [] = [] := rfl
  simp only [text, ofInt, integerText, decide_eq_true_eq, hpoint, List.append_nil]
  split <;> rfl

theorem storable_ofInt (i : Int) : (ofInt i).Storable where
  whole c hc := isDigit_of_mem_natText hc
  fraction c hc := nomatch hc
  exponent c hc := nomatch hc
  leading := by
    rcases Nat.eq_zero_or_pos i.natAbs with hzero | hpos
    · left
      rw [ofInt, hzero]
      rfl
    · exact Or.inr (exists_natText_of_pos hpos)
  exponentSign _ := rfl

end Numeral

end Worksheet.Decimal

namespace Worksheet.Json

open Decimal

theorem all_isDigit_natText (n : Nat) : (natText n).all Lexer.isDigit = true :=
  List.all_eq_true.mpr fun _ ↦ isDigit_of_mem_natText

theorem int?_ofInt (i : Int) : int? (ofInt i) = some i := by
  unfold ofInt integerText
  split
  · next hneg =>
    have hpos : 0 < i.natAbs := Int.natAbs_pos.mpr (Int.ne_of_lt hneg)
    have hzero : natText i.natAbs ≠ ['0'] := by
      obtain ⟨d, ds, htext, hd⟩ := exists_natText_of_pos hpos
      rw [htext]
      exact fun h ↦ hd (List.cons.inj h).1
    refine (if_pos ⟨all_isDigit_natText _, hzero⟩).trans ?_
    rw [natValue?_natText]
    change some (-(i.natAbs : Int)) = some i
    rw [show -(i.natAbs : Int) = i by omega]
  · next hnonneg =>
    obtain ⟨n, rfl⟩ := Int.eq_ofNat_of_zero_le (Int.not_lt.mp hnonneg)
    have hhead : ∀ ds, natText n ≠ '-' :: ds := by
      intro ds h
      have hminus : '-' ∈ natText n := h ▸ List.mem_cons_self
      exact absurd (isDigit_of_mem_natText hminus) (by decide)
    rw [Int.natAbs_natCast]
    unfold int?
    split
    · next h => exact absurd (Json.number.inj h) (hhead _)
    · next h =>
      rw [← Json.number.inj h, if_pos (all_isDigit_natText n), natValue?_natText]
      rfl
    · next h => exact absurd rfl (h _)

theorem int64?_ofInt (i : Int64) : int64? (ofInt i.toInt) = some i := by
  have hmin : Int64.minValue.toInt ≤ i.toInt := i.minValue_le_toInt
  have hmax : i.toInt ≤ Int64.maxValue.toInt := i.toInt_le
  unfold int64?
  rw [int?_ofInt, Option.bind_some, if_pos ⟨hmin, hmax⟩, Int64.ofInt_toInt]

theorem count?_ofInt (c : UInt64) : count? (ofInt c.toNat) = some c := by
  have hbounds : (0 : Int) ≤ c.toNat ∧ (c.toNat : Int) < UInt64.size :=
    ⟨Int.natCast_nonneg _, Int.ofNat_lt.mpr c.toNat_lt_size⟩
  unfold count?
  rw [int?_ofInt, Option.bind_some, if_pos hbounds, Int.toNat_natCast, UInt64.ofNat_toNat]

end Worksheet.Json
