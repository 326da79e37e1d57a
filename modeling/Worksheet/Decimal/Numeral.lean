import Worksheet.Text.Blank
import Worksheet.Text.Digit

/-!
Written decimals: an optional sign, digits with at most one point and at least one digit, and an
optional exponent. `Numeral.scan` takes the longest one at the start of a text. Digits of every
script are scanned, but only ASCII digits have a value.
-/

set_option autoImplicit false
set_option relaxedAutoImplicit false

namespace Worksheet.Decimal

open Worksheet.Text

/-- The parts of a written decimal; the digits are kept as written. -/
structure Numeral where
  negative : Bool
  whole : List Char
  fraction : List Char
  exponentNegative : Bool
  exponent : List Char
  deriving DecidableEq, Repr

/-- An optional sign and the rest; the flag is set by a minus. -/
def splitSign : List Char → Bool × List Char
  | '-' :: rest => (true, rest)
  | '+' :: rest => (false, rest)
  | cs => (false, cs)

def splitDigits (cs : List Char) : List Char × List Char :=
  (cs.takeWhile isDigit, cs.dropWhile isDigit)

/-- Digits before and after the point, with at least one digit. -/
def splitMantissa (cs : List Char) : Option (List Char × List Char × List Char) :=
  match splitDigits cs with
  | ([], '.' :: rest) =>
    match splitDigits rest with
    | ([], _) => none
    | (fraction, rest) => some ([], fraction, rest)
  | ([], _) => none
  | (whole, '.' :: rest) =>
    let (fraction, rest) := splitDigits rest
    some (whole, fraction, rest)
  | (whole, rest) => some (whole, [], rest)

/-- An exponent mark counts only when digits follow it. -/
def splitExponent (cs : List Char) : Bool × List Char × List Char :=
  match cs with
  | mark :: rest =>
    if mark = 'e' ∨ mark = 'E' then
      let (negative, digits) := splitSign rest
      match splitDigits digits with
      | ([], _) => (false, [], cs)
      | (exponent, rest) => (negative, exponent, rest)
    else (false, [], cs)
  | [] => (false, [], [])

/-- The value of a run of ASCII digits. -/
def natValue? (digits : List Char) : Option Nat :=
  digits.foldlM (fun n c ↦ (digitValue? c).map (10 * n + ·)) 0

/-- The double nearest to `mantissa × 10 ^ exponent`. Beyond the bounds on the exponent the value is
already infinite or zero. -/
def nearestFloat (mantissa : Nat) (exponent : Int) : Float :=
  let exponent : Int := max (-((mantissa.log2 + 400 : Nat) : Int)) (min 400 exponent)
  Float.ofScientific mantissa (decide (exponent < 0)) exponent.natAbs

namespace Numeral

/-- The longest numeral at the start, and what follows it. -/
def scan (cs : List Char) : Option (Numeral × List Char) :=
  let (negative, rest) := splitSign cs
  (splitMantissa rest).map fun (whole, fraction, rest) ↦
    let (exponentNegative, exponent, rest) := splitExponent rest
    ({ negative, whole, fraction, exponentNegative, exponent }, rest)

/-- The nearest double; none when a digit is not ASCII. -/
def toFloat? (n : Numeral) : Option Float := do
  let mantissa ← natValue? (n.whole ++ n.fraction)
  let power ← natValue? n.exponent
  let exponent : Int := if n.exponentNegative then -power else power
  let magnitude := nearestFloat mantissa (exponent - n.fraction.length)
  return if n.negative then -magnitude else magnitude

end Numeral

/-- The numeral that a text begins with, after blanks; what follows it is ignored. -/
def leadingNumeral? (cs : List Char) : Option Numeral := (Numeral.scan (trimStart cs)).map Prod.fst

/-- The numeral that a text is, blanks at its ends aside. -/
def wholeNumeral? (cs : List Char) : Option Numeral :=
  (Numeral.scan (trimStart cs)).bind fun (n, rest) ↦ if rest.all isBlank then some n else none

def leadingNumber? (s : String) : Option Float := (leadingNumeral? s.toList).bind Numeral.toFloat?

def wholeNumber? (s : String) : Option Float := (wholeNumeral? s.toList).bind Numeral.toFloat?

theorem splitDigits_append (cs : List Char) : (splitDigits cs).1 ++ (splitDigits cs).2 = cs := by
  simp [splitDigits]

theorem isDigit_of_mem_splitDigits (cs : List Char) (c : Char) (h : c ∈ (splitDigits cs).1) :
    isDigit c = true := by
  simp only [splitDigits] at h
  induction cs with
  | nil => simp at h
  | cons d cs ih =>
    by_cases hd : isDigit d = true
    · simp only [List.takeWhile_cons, hd, if_true, List.mem_cons] at h
      rcases h with rfl | h
      · exact hd
      · exact ih h
    · simp [hd] at h

theorem leadingNumeral?_of_wholeNumeral? (cs : List Char) (n : Numeral)
    (h : wholeNumeral? cs = some n) : leadingNumeral? cs = some n := by
  obtain ⟨⟨m, rest⟩, hscan, hwhole⟩ := Option.bind_eq_some_iff.mp h
  obtain ⟨-, hn⟩ := Option.ite_none_right_eq_some.mp hwhole
  cases hn
  rw [leadingNumeral?, hscan, Option.map_some]

theorem leadingNumber?_of_wholeNumber? (s : String) (x : Float) (h : wholeNumber? s = some x) :
    leadingNumber? s = some x := by
  obtain ⟨n, hwhole, hx⟩ := Option.bind_eq_some_iff.mp h
  rw [leadingNumber?, leadingNumeral?_of_wholeNumeral? s.toList n hwhole, Option.bind_some, hx]

end Worksheet.Decimal
