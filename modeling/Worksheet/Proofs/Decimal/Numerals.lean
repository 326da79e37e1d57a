import Mathlib.Data.List.Basic
import Worksheet.Decimal.Numeral

/-!
What the scanner of decimals takes.

The texts of decimals are given by a grammar (`Numeral.Spells`): an optional sign, digits with at
most one point among, before or behind them, and an optional exponent. The scanner takes the longest
text of the grammar at the start of its input (`Numeral.leadingNumeral_of_scan`) and gives the parts
that the text is made of (`Numeral.exists_spells`), and finds nothing only where no text of the
grammar stands (`Numeral.scan_eq_none_iff`). Each part is shown first to be what the scanner splits
off, and then to leave no more behind when more text follows.
-/

set_option autoImplicit false
set_option relaxedAutoImplicit false

namespace Worksheet.Decimal

open Worksheet.Text

/-! ### The grammar -/

/-- A sign, or none; the flag is set by a minus. -/
inductive SpellsSign : Bool → List Char → Prop where
  | none : SpellsSign false []
  | plus : SpellsSign false ['+']
  | minus : SpellsSign true ['-']

/-- One digit or more. -/
structure Digits (ds : List Char) : Prop where
  ne_nil : ds ≠ []
  digit : ∀ c ∈ ds, isDigit c = true

/-- The digits before and behind the point; there is at least one. -/
inductive SpellsMantissa : List Char → List Char → List Char → Prop where
  | whole {ds : List Char} (h : Digits ds) : SpellsMantissa ds [] ds
  | point {ds fs : List Char} (h : Digits ds) (hf : ∀ c ∈ fs, isDigit c = true) :
      SpellsMantissa ds fs (ds ++ '.' :: fs)
  | fraction {fs : List Char} (h : Digits fs) : SpellsMantissa [] fs ('.' :: fs)

/-- A mark, a sign or none, and digits; or nothing at all. -/
inductive SpellsExponent : Bool → List Char → List Char → Prop where
  | none : SpellsExponent false [] []
  | some {mark : Char} {negative : Bool} {sign ds : List Char} (hmark : mark = 'e' ∨ mark = 'E')
      (hsign : SpellsSign negative sign) (h : Digits ds) :
      SpellsExponent negative ds (mark :: (sign ++ ds))

/-- The text has the parts of the numeral. -/
inductive Numeral.Spells (n : Numeral) : List Char → Prop where
  | intro {sign mantissa exponent : List Char} (hsign : SpellsSign n.negative sign)
      (hmantissa : SpellsMantissa n.whole n.fraction mantissa)
      (hexponent : SpellsExponent n.exponentNegative n.exponent exponent) :
      n.Spells (sign ++ (mantissa ++ exponent))

def IsNumeral (t : List Char) : Prop := ∃ n : Numeral, n.Spells t

/-- The longest numeral that a text begins with. -/
structure LeadingNumeral (cs t : List Char) : Prop where
  isNumeral : IsNumeral t
  starts : t <+: cs
  longest : ∀ t', IsNumeral t' → t' <+: cs → t'.length ≤ t.length

/-! ### Runs of digits -/

/-- The first character, if any, lacks a property. -/
def Stops (p : Char → Bool) (cs : List Char) : Prop := ∀ c ∈ cs.head?, p c = false

theorem stops_nil (p : Char → Bool) : Stops p [] := fun _ h ↦ nomatch h

theorem stops_cons {p : Char → Bool} {c : Char} {cs : List Char} :
    Stops p (c :: cs) ↔ p c = false := by
  simp [Stops]

theorem takeWhile_of_stops {p : Char → Bool} {ds rest : List Char} (hds : ∀ c ∈ ds, p c = true)
    (hrest : Stops p rest) : (ds ++ rest).takeWhile p = ds := by
  rw [List.takeWhile_append_of_pos hds]
  cases rest with
  | nil => rw [List.takeWhile_nil, List.append_nil]
  | cons c rest =>
    rw [List.takeWhile_cons, stops_cons.mp hrest, if_neg Bool.false_ne_true, List.append_nil]

theorem dropWhile_of_stops {p : Char → Bool} {ds rest : List Char} (hds : ∀ c ∈ ds, p c = true)
    (hrest : Stops p rest) : (ds ++ rest).dropWhile p = rest := by
  rw [List.dropWhile_append_of_pos hds]
  cases rest with
  | nil => rfl
  | cons c rest => rw [List.dropWhile_cons, stops_cons.mp hrest, if_neg Bool.false_ne_true]

theorem splitDigits_of_stops {ds rest : List Char} (hds : ∀ c ∈ ds, isDigit c = true)
    (hrest : Stops isDigit rest) : splitDigits (ds ++ rest) = (ds, rest) :=
  Prod.ext (takeWhile_of_stops hds hrest) (dropWhile_of_stops hds hrest)

theorem splitDigits_eq_nil {rest : List Char} (h : Stops isDigit rest) :
    splitDigits rest = ([], rest) :=
  @splitDigits_of_stops [] rest (fun _ hc ↦ nomatch hc) h

/-- Text behind digits only lengthens the run of digits. -/
theorem splitDigits_append_digits {ds : List Char} (hds : ∀ c ∈ ds, isDigit c = true)
    (rest : List Char) :
    splitDigits (ds ++ rest) = (ds ++ (splitDigits rest).1, (splitDigits rest).2) :=
  Prod.ext (List.takeWhile_append_of_pos hds) (List.dropWhile_append_of_pos hds)

theorem stops_splitDigits (cs : List Char) : Stops isDigit (splitDigits cs).2 := by
  have h := List.head?_dropWhile_not isDigit cs
  intro c hc
  change (cs.dropWhile isDigit).head? = some c at hc
  rw [hc] at h
  exact h

theorem length_splitDigits_le (cs : List Char) : (splitDigits cs).2.length ≤ cs.length :=
  (List.dropWhile_suffix isDigit).length_le

theorem Digits.append {ds rest : List Char} (h : Digits ds) (hrest : ∀ c ∈ rest, isDigit c = true) :
    Digits (ds ++ rest) :=
  ⟨List.append_ne_nil_of_left_ne_nil h.ne_nil rest, fun c hc ↦
    (List.mem_append.mp hc).elim (h.digit c) (hrest c)⟩

theorem Digits.exists_cons {ds : List Char} (h : Digits ds) :
    ∃ d rest, ds = d :: rest ∧ isDigit d = true := by
  obtain ⟨d, rest, rfl⟩ := List.exists_cons_of_ne_nil h.ne_nil
  exact ⟨d, rest, rfl, h.digit d List.mem_cons_self⟩

/-! ### Signs -/

def isSign (c : Char) : Bool := c == '+' || c == '-'

theorem exists_sign (cs : List Char) :
    ∃ sign, cs = sign ++ (splitSign cs).2 ∧ SpellsSign (splitSign cs).1 sign := by
  unfold splitSign
  split
  · exact ⟨['-'], rfl, .minus⟩
  · exact ⟨['+'], rfl, .plus⟩
  · exact ⟨[], rfl, .none⟩

theorem splitSign_append {negative : Bool} {sign rest : List Char}
    (h : SpellsSign negative sign) (hrest : Stops isSign rest) :
    splitSign (sign ++ rest) = (negative, rest) := by
  cases h with
  | plus => rfl
  | minus => rfl
  | none =>
    rw [List.nil_append]
    unfold splitSign
    split
    · exact absurd (stops_cons.mp hrest) (by decide)
    · exact absurd (stops_cons.mp hrest) (by decide)
    · rfl

theorem not_isSign_of_isDigit {c : Char} (h : isDigit c = true) : isSign c = false := by
  rw [Bool.eq_false_iff]
  intro hsign
  rcases Bool.or_eq_true_iff.mp hsign with h' | h' <;> rw [eq_of_beq h'] at h <;>
    exact absurd h (by decide)

theorem Digits.stops_isSign {ds : List Char} (h : Digits ds) (rest : List Char) :
    Stops isSign (ds ++ rest) := by
  obtain ⟨d, ds, rfl, hd⟩ := h.exists_cons
  exact stops_cons.mpr (not_isSign_of_isDigit hd)

/-! ### Mantissas -/

theorem splitMantissa_whole {ds rest : List Char} (h : Digits ds)
    (hrest : Stops (fun c ↦ isDigit c || c == '.') rest) :
    splitMantissa (ds ++ rest) = some (ds, [], rest) := by
  have hdigit : Stops isDigit rest := fun c hc ↦ (Bool.or_eq_false_iff.mp (hrest c hc)).1
  unfold splitMantissa
  rw [splitDigits_of_stops h.digit hdigit]
  split
  · next heq => exact absurd (Prod.mk.inj heq).1 h.ne_nil
  · next heq => exact absurd (Prod.mk.inj heq).1 h.ne_nil
  · next heq =>
    rw [(Prod.mk.inj heq).2] at hrest
    exact absurd (stops_cons.mp hrest) (by decide)
  · next heq =>
    obtain ⟨rfl, rfl⟩ := Prod.mk.inj heq
    rfl

theorem splitMantissa_point {ds : List Char} (h : Digits ds) (rest : List Char) :
    splitMantissa (ds ++ '.' :: rest) = some (ds, (splitDigits rest).1, (splitDigits rest).2) := by
  unfold splitMantissa
  rw [splitDigits_of_stops h.digit (stops_cons.mpr (by decide))]
  split
  · next heq => exact absurd (Prod.mk.inj heq).1 h.ne_nil
  · next heq => exact absurd (Prod.mk.inj heq).1 h.ne_nil
  · next heq =>
    obtain ⟨rfl, hcons⟩ := Prod.mk.inj heq
    obtain ⟨-, rfl⟩ := List.cons.inj hcons
    rfl
  · next hne heq =>
    obtain ⟨-, rfl⟩ := Prod.mk.inj heq
    exact absurd rfl (hne _)

theorem splitMantissa_fraction {fs : List Char} (h : Digits fs) (rest : List Char) :
    splitMantissa ('.' :: (fs ++ rest)) =
      some ([], fs ++ (splitDigits rest).1, (splitDigits rest).2) := by
  have hpoint : splitDigits ('.' :: (fs ++ rest)) = ([], '.' :: (fs ++ rest)) :=
    splitDigits_eq_nil (stops_cons.mpr (by decide))
  have hsplit := splitDigits_append_digits h.digit rest
  obtain ⟨d, ds, rfl, -⟩ := h.exists_cons
  unfold splitMantissa
  rw [hpoint]
  simp only [hsplit]
  rfl

/-- What is split off is a mantissa. -/
theorem exists_mantissa {cs whole fraction rest : List Char}
    (h : splitMantissa cs = some (whole, fraction, rest)) :
    ∃ mantissa, cs = mantissa ++ rest ∧ SpellsMantissa whole fraction mantissa := by
  have hdigit := isDigit_of_mem_splitDigits cs
  rw [← splitDigits_append cs]
  unfold splitMantissa at h
  split at h
  · next tail hsplit =>
    have hdigit' := isDigit_of_mem_splitDigits tail
    have happend := splitDigits_append tail
    split at h
    · cases h
    · next hne hsplit' =>
      obtain ⟨rfl, rfl, rfl⟩ := h
      rw [hsplit'] at hdigit' happend
      rw [hsplit, ← happend]
      exact ⟨_, rfl, .fraction ⟨hne, hdigit'⟩⟩
  · cases h
  · next tail hne hsplit =>
    obtain ⟨rfl, rfl, rfl⟩ := h
    rw [hsplit] at hdigit
    rw [hsplit]
    refine ⟨whole ++ '.' :: (splitDigits tail).1, ?_,
      .point ⟨hne, hdigit⟩ (isDigit_of_mem_splitDigits tail)⟩
    rw [List.append_assoc, List.cons_append]
    exact congrArg (whole ++ '.' :: ·) (splitDigits_append tail).symm
  · next hne hpoint hsplit =>
    obtain ⟨rfl, rfl, rfl⟩ := h
    rw [hsplit] at hdigit
    rw [hsplit]
    exact ⟨_, rfl, .whole ⟨hne, hdigit⟩⟩

theorem splitMantissa_of_stops {whole fraction mantissa rest : List Char}
    (h : SpellsMantissa whole fraction mantissa)
    (hrest : Stops (fun c ↦ isDigit c || c == '.') rest) :
    splitMantissa (mantissa ++ rest) = some (whole, fraction, rest) := by
  have hdigit : Stops isDigit rest := fun c hc ↦ (Bool.or_eq_false_iff.mp (hrest c hc)).1
  have hrun := splitDigits_eq_nil hdigit
  cases h with
  | whole h => exact splitMantissa_whole h hrest
  | point h hf =>
    rw [List.append_assoc, List.cons_append, splitMantissa_point h, splitDigits_of_stops hf hdigit]
  | fraction h =>
    rw [List.cons_append, splitMantissa_fraction h, hrun, List.append_nil]

/-- Text behind a mantissa only lengthens what is split off. -/
theorem exists_splitMantissa {whole fraction mantissa : List Char}
    (h : SpellsMantissa whole fraction mantissa) (rest : List Char) :
    ∃ whole' fraction' rest', splitMantissa (mantissa ++ rest) = some (whole', fraction', rest') ∧
      rest'.length ≤ rest.length := by
  have hlength := length_splitDigits_le rest
  cases h with
  | whole h =>
    have hsplit := splitDigits_append rest
    have hstops := stops_splitDigits rest
    have hdigits := h.append (isDigit_of_mem_splitDigits rest)
    generalize (splitDigits rest).1 = ds, (splitDigits rest).2 = tail at *
    rw [← hsplit, ← List.append_assoc]
    by_cases hpoint : ∃ tail', tail = '.' :: tail'
    · obtain ⟨tail', rfl⟩ := hpoint
      have hle := length_splitDigits_le tail'
      refine ⟨_, _, _, splitMantissa_point hdigits tail', ?_⟩
      simp only [List.length_append, List.length_cons]
      omega
    · refine ⟨_, _, _, splitMantissa_whole hdigits fun c hc ↦ ?_, by simp⟩
      obtain ⟨tail', rfl⟩ := List.head?_eq_some_iff.mp hc
      have hne : c ≠ '.' := fun heq ↦ hpoint ⟨tail', heq ▸ rfl⟩
      exact Bool.or_eq_false_iff.mpr ⟨stops_cons.mp hstops, beq_eq_false_iff_ne.mpr hne⟩
  | point h hf =>
    rw [List.append_assoc, List.cons_append]
    refine ⟨_, _, _, splitMantissa_point h _, ?_⟩
    rw [splitDigits_append_digits hf]
    exact hlength
  | fraction h =>
    exact ⟨_, _, _, splitMantissa_fraction h rest, hlength⟩

/-! ### Exponents -/

/-- What is split off is an exponent. -/
theorem exists_exponent (cs : List Char) :
    ∃ exponent, cs = exponent ++ (splitExponent cs).2.2 ∧
      SpellsExponent (splitExponent cs).1 (splitExponent cs).2.1 exponent := by
  unfold splitExponent
  split
  · next mark rest =>
    split
    · next hmark =>
      obtain ⟨sign, hrest, hsign⟩ := exists_sign rest
      have hdigit := isDigit_of_mem_splitDigits (splitSign rest).2
      have happend := splitDigits_append (splitSign rest).2
      dsimp only
      split
      · exact ⟨[], rfl, .none⟩
      · next hne hsplit =>
        rw [hsplit] at hdigit happend
        refine ⟨_, ?_, .some hmark hsign ⟨hne, hdigit⟩⟩
        rw [List.cons_append, List.append_assoc, happend, ← hrest]
    · exact ⟨[], rfl, .none⟩
  · exact ⟨[], rfl, .none⟩

theorem splitExponent_some {mark : Char} {negative : Bool} {sign ds : List Char}
    (hmark : mark = 'e' ∨ mark = 'E') (hsign : SpellsSign negative sign) (h : Digits ds)
    (rest : List Char) :
    splitExponent (mark :: (sign ++ ds) ++ rest) =
      (negative, ds ++ (splitDigits rest).1, (splitDigits rest).2) := by
  rw [List.cons_append, List.append_assoc]
  unfold splitExponent
  dsimp only
  rw [if_pos hmark, splitSign_append hsign (h.stops_isSign rest)]
  dsimp only
  rw [splitDigits_append_digits h.digit]
  obtain ⟨d, ds, rfl, -⟩ := h.exists_cons
  rfl

theorem splitExponent_eq {negative : Bool} {ds exponent : List Char}
    (h : SpellsExponent negative ds exponent) : splitExponent exponent = (negative, ds, []) := by
  cases h with
  | none => rfl
  | some hmark hsign h =>
    have hsplit := splitExponent_some hmark hsign h []
    rw [List.append_nil] at hsplit
    rw [hsplit, splitDigits_eq_nil (stops_nil _), List.append_nil]

/-- Text behind an exponent only lengthens what is split off. -/
theorem length_splitExponent_le {negative : Bool} {ds exponent : List Char}
    (h : SpellsExponent negative ds exponent) (rest : List Char) :
    (splitExponent (exponent ++ rest)).2.2.length ≤ rest.length := by
  cases h with
  | none =>
    obtain ⟨exponent, hrest, -⟩ := exists_exponent rest
    have hlength := congrArg List.length hrest
    rw [List.length_append] at hlength
    rw [List.nil_append]
    omega
  | some hmark hsign h =>
    rw [splitExponent_some hmark hsign h]
    exact length_splitDigits_le rest

theorem SpellsExponent.nil_or_stops {negative : Bool} {ds exponent : List Char}
    (h : SpellsExponent negative ds exponent) :
    exponent = [] ∨ ∀ rest, Stops (fun c ↦ isDigit c || c == '.') (exponent ++ rest) := by
  cases h with
  | none => exact Or.inl rfl
  | some hmark =>
    refine Or.inr fun rest ↦ stops_cons.mpr ?_
    rcases hmark with rfl | rfl <;> decide

/-! ### Numerals -/

namespace Numeral

theorem stops_isSign_of_spellsMantissa {whole fraction mantissa : List Char}
    (h : SpellsMantissa whole fraction mantissa) (rest : List Char) :
    Stops isSign (mantissa ++ rest) := by
  cases h with
  | whole h => exact h.stops_isSign rest
  | point h hf =>
    rw [List.append_assoc]
    exact h.stops_isSign _
  | fraction h => exact stops_cons.mpr (by decide)

theorem scan_eq (cs : List Char) :
    scan cs = (splitMantissa (splitSign cs).2).map fun p ↦
      (⟨(splitSign cs).1, p.1, p.2.1, (splitExponent p.2.2).1, (splitExponent p.2.2).2.1⟩,
        (splitExponent p.2.2).2.2) := rfl

/-- What is scanned is a numeral. -/
theorem exists_spells {cs rest : List Char} {n : Numeral} (h : scan cs = some (n, rest)) :
    ∃ t, cs = t ++ rest ∧ n.Spells t := by
  obtain ⟨sign, hcs, hsign⟩ := exists_sign cs
  rw [scan_eq] at h
  obtain ⟨⟨whole, fraction, tail⟩, hsplit, hparts⟩ := Option.map_eq_some_iff.mp h
  obtain ⟨mantissa, htail, hmantissa⟩ := exists_mantissa hsplit
  obtain ⟨exponent, hrest, hexponent⟩ := exists_exponent tail
  obtain ⟨rfl, rfl⟩ := Prod.mk.inj hparts
  refine ⟨sign ++ (mantissa ++ exponent), ?_, .intro hsign hmantissa hexponent⟩
  rw [List.append_assoc, List.append_assoc, ← hrest, ← htail, ← hcs]

/-- A numeral is scanned whole, into its parts. -/
theorem scan_of_spells {n : Numeral} {t : List Char} (h : n.Spells t) : scan t = some (n, []) := by
  obtain @⟨sign, mantissa, exponent, hsign, hmantissa, hexponent⟩ := h
  have hstops : Stops (fun c ↦ isDigit c || c == '.') exponent := by
    rcases hexponent.nil_or_stops with rfl | hmark
    · exact stops_nil _
    · simpa using hmark []
  rw [scan_eq, splitSign_append hsign (stops_isSign_of_spellsMantissa hmantissa _)]
  dsimp only
  rw [splitMantissa_of_stops hmantissa hstops, Option.map_some, splitExponent_eq hexponent]

theorem Spells.unique {n n' : Numeral} {t : List Char} (h : n.Spells t) (h' : n'.Spells t) :
    n = n' := by
  have hscan := (scan_of_spells h).symm.trans (scan_of_spells h')
  exact (Prod.mk.inj (Option.some.inj hscan)).1

/-- Text behind a numeral only lengthens what is scanned. -/
theorem exists_scan {n : Numeral} {t : List Char} (h : n.Spells t) (rest : List Char) :
    ∃ n' rest', scan (t ++ rest) = some (n', rest') ∧ rest'.length ≤ rest.length := by
  obtain @⟨sign, mantissa, exponent, hsign, hmantissa, hexponent⟩ := h
  have hstops := stops_isSign_of_spellsMantissa hmantissa (exponent ++ rest)
  rw [List.append_assoc, List.append_assoc, scan_eq, splitSign_append hsign hstops]
  dsimp only
  rcases hexponent.nil_or_stops with rfl | hmark
  · -- The mantissa may grow, and then an exponent may follow.
    obtain ⟨whole, fraction, tail, hsplit, htail⟩ := exists_splitMantissa hmantissa rest
    rw [List.nil_append, hsplit]
    exact ⟨_, _, rfl, Nat.le_trans (length_splitExponent_le .none tail) htail⟩
  · rw [splitMantissa_of_stops hmantissa (hmark rest)]
    exact ⟨_, _, rfl, length_splitExponent_le hexponent rest⟩

/-- The scanner takes the longest numeral. -/
theorem leadingNumeral_of_scan {cs rest t : List Char} {n : Numeral}
    (h : scan cs = some (n, rest)) (hcs : cs = t ++ rest) (ht : n.Spells t) :
    LeadingNumeral cs t where
  isNumeral := ⟨n, ht⟩
  starts := ⟨rest, hcs.symm⟩
  longest := by
    rintro t' ⟨n', hspells⟩ ⟨rest', hrest'⟩
    obtain ⟨n'', rest'', hscan, hlength⟩ := exists_scan hspells rest'
    rw [hrest', h] at hscan
    obtain ⟨-, rfl⟩ := Prod.mk.inj (Option.some.inj hscan)
    have hsame := congrArg List.length (hrest'.trans hcs)
    simp only [List.length_append] at hsame
    omega

theorem scan_eq_none_iff (cs : List Char) : scan cs = none ↔ ∀ t, IsNumeral t → ¬ t <+: cs := by
  constructor
  · rintro h t ⟨n, hspells⟩ ⟨rest, rfl⟩
    obtain ⟨n', rest', hscan, -⟩ := exists_scan hspells rest
    rw [h] at hscan
    cases hscan
  · intro h
    by_contra hsome
    obtain ⟨⟨n, rest⟩, hscan⟩ := Option.ne_none_iff_exists'.mp hsome
    obtain ⟨t, rfl, hspells⟩ := exists_spells hscan
    exact h t ⟨n, hspells⟩ (List.prefix_append t rest)

/-! ### Digits with a value -/

end Numeral

/-- Of the digits of a text, all are ASCII digits. -/
def AsciiDigits (cs : List Char) : Prop := ∀ c ∈ cs, isDigit c = true → '0' ≤ c ∧ c ≤ '9'

theorem asciiDigits_append {cs ds : List Char} :
    AsciiDigits (cs ++ ds) ↔ AsciiDigits cs ∧ AsciiDigits ds := List.forall_mem_append

theorem asciiDigits_cons {c : Char} (hc : isDigit c = false) {cs : List Char} :
    AsciiDigits (c :: cs) ↔ AsciiDigits cs := by
  refine List.forall_mem_cons.trans (and_iff_right fun hdigit ↦ ?_)
  exact absurd (hc.symm.trans hdigit) Bool.false_ne_true

theorem asciiDigits_iff {ds : List Char} (h : ∀ c ∈ ds, isDigit c = true) :
    AsciiDigits ds ↔ ∀ c ∈ ds, '0' ≤ c ∧ c ≤ '9' :=
  forall₂_congr fun c hc ↦ imp_iff_right (h c hc)

theorem SpellsSign.asciiDigits {negative : Bool} {sign : List Char}
    (h : SpellsSign negative sign) : AsciiDigits sign := by
  cases h with
  | none => exact fun _ hc ↦ nomatch hc
  | plus => exact (asciiDigits_cons (by decide)).mpr fun _ hc ↦ nomatch hc
  | minus => exact (asciiDigits_cons (by decide)).mpr fun _ hc ↦ nomatch hc

theorem SpellsMantissa.asciiDigits_iff {whole fraction mantissa : List Char}
    (h : SpellsMantissa whole fraction mantissa) :
    AsciiDigits mantissa ↔ ∀ c ∈ whole ++ fraction, '0' ≤ c ∧ c ≤ '9' := by
  cases h with
  | whole h => rw [List.append_nil, Decimal.asciiDigits_iff h.digit]
  | point h hf =>
    rw [asciiDigits_append, asciiDigits_cons (by decide), ← asciiDigits_append,
      Decimal.asciiDigits_iff (h.append hf).digit]
  | fraction h =>
    rw [asciiDigits_cons (by decide), List.nil_append, Decimal.asciiDigits_iff h.digit]

theorem SpellsExponent.asciiDigits_iff {negative : Bool} {ds exponent : List Char}
    (h : SpellsExponent negative ds exponent) :
    AsciiDigits exponent ↔ ∀ c ∈ ds, '0' ≤ c ∧ c ≤ '9' := by
  cases h with
  | none => exact Decimal.asciiDigits_iff fun _ hc ↦ nomatch hc
  | some hmark hsign h =>
    have hdigit : ∀ mark, mark = 'e' ∨ mark = 'E' → isDigit mark = false := by
      rintro _ (rfl | rfl) <;> decide
    rw [asciiDigits_cons (hdigit _ hmark), asciiDigits_append, and_iff_right hsign.asciiDigits,
      Decimal.asciiDigits_iff h.digit]

/-- The digits of a text are those of its parts. -/
theorem Numeral.Spells.asciiDigits_iff {n : Numeral} {t : List Char} (h : n.Spells t) :
    AsciiDigits t ↔ ∀ c ∈ n.whole ++ n.fraction ++ n.exponent, '0' ≤ c ∧ c ≤ '9' := by
  obtain ⟨hsign, hmantissa, hexponent⟩ := h
  rw [asciiDigits_append, and_iff_right hsign.asciiDigits, asciiDigits_append,
    hmantissa.asciiDigits_iff, hexponent.asciiDigits_iff]
  exact List.forall_mem_append.symm

theorem foldlM_digitValue?_eq_some_iff (ds : List Char) (n v : Nat) :
    ds.foldlM (fun n c ↦ (digitValue? c).map (10 * n + ·)) n = some v ↔
      (∀ c ∈ ds, '0' ≤ c ∧ c ≤ '9') ∧ Nat.ofDigitChars 10 ds n = v := by
  induction ds generalizing n with
  | nil => simp
  | cons c ds ih =>
    rw [List.foldlM_cons, List.forall_mem_cons, Nat.ofDigitChars_cons]
    by_cases hc : '0' ≤ c ∧ c ≤ '9'
    · rw [digitValue?, if_pos hc]
      change ds.foldlM _ _ = some v ↔ _
      rw [ih, and_iff_right hc]
    · rw [digitValue?, if_neg hc]
      exact iff_of_false (fun h ↦ nomatch h) fun h ↦ hc h.1.1

theorem natValue?_eq_some_iff {ds : List Char} {v : Nat} :
    natValue? ds = some v ↔ (∀ c ∈ ds, '0' ≤ c ∧ c ≤ '9') ∧ Nat.ofDigitChars 10 ds 0 = v :=
  foldlM_digitValue?_eq_some_iff ds 0 v

namespace Numeral

def mantissa (n : Numeral) : Nat := Nat.ofDigitChars 10 (n.whole ++ n.fraction) 0

/-- The power of ten of the last digit. -/
def power (n : Numeral) : Int :=
  (if n.exponentNegative then -(Nat.ofDigitChars 10 n.exponent 0 : Int)
    else Nat.ofDigitChars 10 n.exponent 0) - n.fraction.length

theorem toFloat?_eq_some_iff {n : Numeral} {x : Float} :
    n.toFloat? = some x ↔
      (∀ c ∈ n.whole ++ n.fraction ++ n.exponent, '0' ≤ c ∧ c ≤ '9') ∧
        (if n.negative then -nearestFloat n.mantissa n.power
          else nearestFloat n.mantissa n.power) = x := by
  unfold toFloat?
  simp only [Option.bind_eq_bind, Option.bind_eq_some_iff, natValue?_eq_some_iff]
  constructor
  · rintro ⟨_, ⟨hmantissa, rfl⟩, _, ⟨hexponent, rfl⟩, hx⟩
    exact ⟨List.forall_mem_append.mpr ⟨hmantissa, hexponent⟩, Option.some.inj hx⟩
  · rintro ⟨h, rfl⟩
    obtain ⟨hmantissa, hexponent⟩ := List.forall_mem_append.mp h
    exact ⟨_, ⟨hmantissa, rfl⟩, _, ⟨hexponent, rfl⟩, rfl⟩

end Numeral

end Worksheet.Decimal
