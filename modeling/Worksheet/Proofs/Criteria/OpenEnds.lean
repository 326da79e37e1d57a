import Mathlib.Algebra.Ring.Parity
import Mathlib.Data.List.TakeWhile
import Worksheet.Criteria.Matcher
import Worksheet.Proofs.Criteria.WildcardScan
import Worksheet.Proofs.Text.LowercaseImages

/-!
Bare texts with an open end.

A bare text is opened by a star behind it. The star is a run, and the opened text accepts whatever
begins with a text that the bare one accepts, unless the bare text ends in a tilde that nothing has
taken the meaning from. That tilde stood for itself; now it takes the meaning of the star. Tildes
at the end pair off, so this happens exactly when their number is odd (`opensAsPrefix_iff_even`).
-/

set_option autoImplicit false
set_option relaxedAutoImplicit false

namespace Worksheet.Criteria

namespace Wildcard

open Text.Lowercase

/-! ### Patterns side by side -/

theorem matches_append_iff (ts us : List Token) (cs : List Char) :
    Matches (ts ++ us) cs ↔
      ∃ front back, cs = front ++ back ∧ Matches ts front ∧ Matches us back := by
  induction ts generalizing cs with
  | nil =>
    simp only [List.nil_append, matches_nil_iff]
    constructor
    · intro h
      exact ⟨[], cs, rfl, rfl, h⟩
    · rintro ⟨_, back, rfl, rfl, h⟩
      exact h
  | cons t ts ih =>
    rw [List.cons_append, matches_cons_iff]
    constructor
    · rintro ⟨taken, rest, rfl, htakes, h⟩
      obtain ⟨front, back, rfl, hfront, hback⟩ := (ih rest).mp h
      refine ⟨taken ++ front, back, (List.append_assoc ..).symm, ?_, hback⟩
      exact (matches_cons_iff t ts _).mpr ⟨taken, front, rfl, htakes, hfront⟩
    · rintro ⟨front, back, rfl, hfront, hback⟩
      obtain ⟨taken, rest, rfl, htakes, h⟩ := (matches_cons_iff t ts front).mp hfront
      refine ⟨taken, rest ++ back, List.append_assoc .., htakes, ?_⟩
      exact (ih _).mpr ⟨rest, back, rfl, h, hback⟩

theorem Matches.append {ts us : List Token} {cs ds : List Char} (h : Matches ts cs)
    (h' : Matches us ds) : Matches (ts ++ us) (cs ++ ds) :=
  (matches_append_iff ts us _).mpr ⟨cs, ds, rfl, h, h'⟩

theorem Token.Takes.matches {t : Token} {taken : List Char} (h : t.Takes taken) :
    Matches [t] taken :=
  (matches_cons_iff t [] taken).mpr ⟨taken, [], (List.append_nil taken).symm, h, .nil⟩

theorem matches_concat_run_iff (ts : List Token) (cs : List Char) :
    Matches (ts ++ [.run]) cs ↔ ∃ front, front <+: cs ∧ Matches ts front := by
  rw [matches_append_iff]
  constructor
  · rintro ⟨front, back, rfl, hfront, -⟩
    exact ⟨front, List.prefix_append front back, hfront⟩
  · rintro ⟨front, ⟨back, rfl⟩, hfront⟩
    exact ⟨front, back, rfl, hfront, (matches_run_iff [] back).mpr ⟨[], List.nil_suffix, .nil⟩⟩

theorem matches_concat_literal_iff (ts : List Token) (d : Char) (cs : List Char) :
    Matches (ts ++ [.literal d]) cs ↔ ∃ front, cs = front ++ [d] ∧ Matches ts front := by
  rw [matches_append_iff]
  constructor
  · rintro ⟨front, back, rfl, hfront, hback⟩
    cases hback with
    | literal _ _ _ h =>
      cases h
      exact ⟨front, rfl, hfront⟩
  · rintro ⟨front, rfl, hfront⟩
    exact ⟨front, [d], rfl, hfront, .literal d [] [] .nil⟩

theorem exists_matches (ts : List Token) : ∃ cs, Matches ts cs := by
  induction ts with
  | nil => exact ⟨[], .nil⟩
  | cons t ts ih =>
    obtain ⟨cs, h⟩ := ih
    cases t with
    | run => exact ⟨cs, .stop ts cs h⟩
    | one => exact ⟨' ' :: cs, .one ' ' ts cs h⟩
    | literal c => exact ⟨c :: cs, .literal c ts cs h⟩

/-! ### The beginning of a pattern -/

/-- A pattern begins with an escape, with a wildcard or with a character that stands for itself. -/
@[elab_as_elim]
theorem patternInduction {motive : List Char → Prop} (nil : motive []) (tilde : motive ['~'])
    (escape : ∀ c rest, motive rest → motive ('~' :: c :: rest))
    (star : ∀ rest, motive rest → motive ('*' :: rest))
    (mark : ∀ rest, motive rest → motive ('?' :: rest))
    (plain : ∀ c rest, isMark c = false → motive rest → motive (c :: rest)) (p : List Char) :
    motive p := by
  fun_induction tokens p with
  | case1 => exact nil
  | case2 => exact tilde
  | case3 c rest ih => exact escape c rest ih
  | case4 rest ih => exact star rest ih
  | case5 rest ih => exact mark rest ih
  | case6 c rest halone hescape hstar hmark ih =>
    have htilde : c ≠ '~' := by
      intro hc
      cases rest with
      | nil => exact halone hc rfl
      | cons d rest => exact hescape d rest hc rfl
    exact plain c rest ((not_isMark_iff c).mpr ⟨htilde, hstar, hmark⟩) ih

theorem tokens_cons_of_not_isMark {c : Char} (h : isMark c = false) (rest : List Char) :
    tokens (c :: rest) = .literal c :: tokens rest := by
  obtain ⟨htilde, hstar, hmark⟩ := (not_isMark_iff c).mp h
  rw [tokens]
  · exact fun h ↦ absurd h htilde
  · exact fun _ _ h ↦ absurd h htilde
  · exact hstar
  · exact hmark

/-! ### A star behind a pattern -/

/-- How many tildes a pattern ends in. -/
def closingTildes (cs : List Char) : Nat := (cs.reverse.takeWhile (· == '~')).length

theorem closingTildes_cons (c : Char) (cs : List Char) :
    closingTildes (c :: cs) =
      closingTildes cs + if c = '~' ∧ cs.all (· == '~') = true then 1 else 0 := by
  unfold closingTildes
  have hall : cs.reverse.takeWhile (· == '~') = cs.reverse ↔ cs.all (· == '~') = true := by
    simp [List.takeWhile_eq_self_iff]
  rw [List.reverse_cons, List.takeWhile_append]
  by_cases hlength : (cs.reverse.takeWhile (· == '~')).length = cs.reverse.length
  · have hwhole := (List.takeWhile_prefix _).eq_of_length hlength
    rw [if_pos hlength, hwhole, List.length_append]
    have htildes := hall.mp hwhole
    by_cases hc : c = '~'
    · rw [if_pos ⟨hc, htildes⟩]
      simp [hc]
    · rw [if_neg fun h ↦ hc h.1]
      simp [hc]
  · have hpart : ¬ cs.all (· == '~') = true := fun h ↦ hlength (congrArg List.length (hall.mpr h))
    rw [if_neg hlength, if_neg fun h ↦ hpart h.2, Nat.add_zero]

theorem even_closingTildes_cons {c : Char} (hc : c ≠ '~') (cs : List Char) :
    Even (closingTildes (c :: cs)) ↔ Even (closingTildes cs) := by
  simp [closingTildes_cons, hc]

/-- An escape takes its tilde and one more character, so that tildes at the end pair off. -/
theorem even_closingTildes_escape (c : Char) (cs : List Char) :
    Even (closingTildes ('~' :: c :: cs)) ↔ Even (closingTildes cs) := by
  rw [closingTildes_cons, closingTildes_cons]
  simp only [true_and, List.all_cons, Bool.and_eq_true, beq_iff_eq]
  split
  · rw [Nat.even_add_one, Nat.even_add_one, not_not]
  · rfl

/-- A star behind the pattern is a run, or is what the last tilde takes the meaning from. -/
def TakesStar (cs : List Char) : Prop :=
  ∃ ts, tokens cs = ts ++ (if Even (closingTildes cs) then [] else [.literal '~']) ∧
    tokens (cs ++ ['*']) = ts ++ [if Even (closingTildes cs) then .run else .literal '*']

theorem TakesStar.cons {t : Token} {cs rest : List Char} (h : TakesStar rest)
    (hbare : tokens cs = t :: tokens rest)
    (hopen : tokens (cs ++ ['*']) = t :: tokens (rest ++ ['*']))
    (heven : Even (closingTildes cs) ↔ Even (closingTildes rest)) : TakesStar cs := by
  obtain ⟨ts, hrest, hrestopen⟩ := h
  refine ⟨t :: ts, ?_, ?_⟩
  · simp only [heven, hbare, hrest, List.cons_append]
  · simp only [heven, hopen, hrestopen, List.cons_append]

theorem takesStar (cs : List Char) : TakesStar cs := by
  induction cs using patternInduction with
  | nil => exact ⟨[], rfl, rfl⟩
  | tilde => exact ⟨[], rfl, rfl⟩
  | escape c rest ih => exact ih.cons rfl rfl (even_closingTildes_escape c rest)
  | star rest ih => exact ih.cons rfl rfl (even_closingTildes_cons (by decide) rest)
  | mark rest ih => exact ih.cons rfl rfl (even_closingTildes_cons (by decide) rest)
  | plain c rest hplain ih =>
    have htilde := ((not_isMark_iff c).mp hplain).1
    exact ih.cons (tokens_cons_of_not_isMark hplain rest) (tokens_cons_of_not_isMark hplain _)
      (even_closingTildes_cons htilde rest)

end Wildcard

/-! ### Bare texts -/

open Wildcard

theorem Options.fold_eq_empty_iff (o : Options) (s : String) :
    (o.fold s).toList = [] ↔ s.toList = [] := by
  unfold Options.fold
  split
  · rfl
  · rw [Text.toList_lowercase, Text.Lowercase.chars_eq_nil_iff]

/-- A text under no operator or under `=` accepts the texts that its pattern stands for, both in
lowercase unless case counts. -/
theorem test_text_iff (o : Options) {op : Operator} (hop : op = .bare ∨ op = .eq) (p s : String) :
    o.test (.text s) ⟨op, .text p⟩ = true ↔
      Matches (tokens (o.fold p).toList) (o.fold s).toList := by
  have htest (loose : Bool) : o.equals loose (.text s) (.text p) = true ↔
      Matches (tokens (o.fold p).toList) (o.fold s).toList := by
    by_cases hempty : p = ""
    · subst hempty
      have hfold := (o.fold_eq_empty_iff "").mpr rfl
      have htext := o.fold_eq_empty_iff s
      simp only [Options.equals, hfold, tokens, matches_nil_iff, htext]
      simp
    · have hne : ¬ p.isEmpty = true := by simpa using hempty
      simp only [Options.equals, if_neg hne, Wildcard.test, accepts_iff_matches]
  rcases hop with rfl | rfl
  · exact htest true
  · exact htest false

/-- With letters told apart by case, a bare text accepts the texts that its pattern stands for. -/
theorem test_bare_text_iff (o : Options) (hcase : o.caseSensitive = true) (p s : String) :
    o.test (.text s) ⟨.bare, .text p⟩ = true ↔ Matches (tokens p.toList) s.toList := by
  have hfold (t : String) : o.fold t = t := if_pos hcase
  rw [test_text_iff o (Or.inl rfl), hfold, hfold]

theorem openEnd_text (p : String) :
    Condition.openEnd ⟨.bare, .text p⟩ = ⟨.bare, .text (p.push '*')⟩ := rfl

/-- What a bare text accepts once its end is open. -/
theorem test_openEnd_iff (o : Options) (hcase : o.caseSensitive = true) (p s : String) :
    o.test (.text s) (Condition.openEnd ⟨.bare, .text p⟩) = true ↔
      if Even (closingTildes p.toList) then
        ∃ t : String, t.toList <+: s.toList ∧ o.test (.text t) ⟨.bare, .text p⟩ = true
      else ∃ t : String, s = t ++ "*" ∧ o.test (.text (t ++ "~")) ⟨.bare, .text p⟩ = true := by
  simp only [openEnd_text, test_bare_text_iff o hcase, String.toList_push]
  obtain ⟨ts, hbare, hopen⟩ := takesStar p.toList
  split
  · next heven =>
    rw [if_pos heven] at hbare hopen
    rw [hbare, hopen, List.append_nil, matches_concat_run_iff]
    constructor
    · rintro ⟨front, hfront, h⟩
      exact ⟨String.ofList front, by simpa using hfront, by simpa using h⟩
    · rintro ⟨t, ht, h⟩
      exact ⟨t.toList, ht, h⟩
  · next hodd =>
    rw [if_neg hodd] at hbare hopen
    have htilde : "~".toList = ['~'] := rfl
    have hstar : "*".toList = ['*'] := rfl
    simp only [hbare, hopen, matches_concat_literal_iff, String.toList_append, htilde]
    constructor
    · rintro ⟨front, hfront, h⟩
      refine ⟨String.ofList front, String.toList_inj.mp ?_, front, ?_, h⟩
      · rw [hfront, String.toList_append, String.toList_ofList, hstar]
      · rw [String.toList_ofList]
    · rintro ⟨t, rfl, front, hfront, h⟩
      refine ⟨t.toList, by rw [String.toList_append, hstar], ?_⟩
      rwa [List.append_cancel_right hfront]

/-- An open tilde at the end is lost: some text is accepted by the bare text and not by the opened
one. -/
theorem exists_lost (o : Options) (hcase : o.caseSensitive = true) (p : String)
    (hodd : ¬ Even (closingTildes p.toList)) :
    ∃ s : String, o.test (.text s) ⟨.bare, .text p⟩ = true ∧
      ¬ o.test (.text s) (Condition.openEnd ⟨.bare, .text p⟩) = true := by
  obtain ⟨ts, hbare, hopen⟩ := takesStar p.toList
  rw [if_neg hodd] at hbare hopen
  obtain ⟨front, hfront⟩ := exists_matches ts
  refine ⟨String.ofList (front ++ ['~']), ?_, ?_⟩
  · rw [test_bare_text_iff o hcase, hbare, matches_concat_literal_iff, String.toList_ofList]
    exact ⟨front, rfl, hfront⟩
  · rw [openEnd_text, test_bare_text_iff o hcase, String.toList_push, hopen,
      matches_concat_literal_iff, String.toList_ofList]
    rintro ⟨other, heq, -⟩
    have hlast := congrArg List.getLast? heq
    simp at hlast

/-- The opened text accepts whatever begins with a text that the bare one accepts. -/
def OpensAsPrefix (o : Options) (p : String) : Prop :=
  ∀ s : String, o.test (.text s) (Condition.openEnd ⟨.bare, .text p⟩) = true ↔
    ∃ t : String, t.toList <+: s.toList ∧ o.test (.text t) ⟨.bare, .text p⟩ = true

/-- A bare text matches as a prefix exactly if it ends in an even number of tildes. Otherwise its
last tilde takes the meaning from the star, and a star has to stand in the place of that tilde. -/
theorem opensAsPrefix_iff_even (o : Options) (hcase : o.caseSensitive = true) (p : String) :
    (OpensAsPrefix o p ↔ Even (closingTildes p.toList)) ∧
      (Odd (closingTildes p.toList) → ∀ s : String,
        o.test (.text s) (Condition.openEnd ⟨.bare, .text p⟩) = true ↔
          ∃ t : String, s = t ++ "*" ∧ o.test (.text (t ++ "~")) ⟨.bare, .text p⟩ = true) := by
  constructor
  · constructor
    · intro hopens
      by_contra hodd
      obtain ⟨s, hbare, hopen⟩ := exists_lost o hcase p hodd
      exact hopen ((hopens s).mpr ⟨s, List.prefix_rfl, hbare⟩)
    · intro heven s
      rw [test_openEnd_iff o hcase, if_pos heven]
  · intro hodd s
    rw [test_openEnd_iff o hcase, if_neg (Nat.not_even_iff_odd.mpr hodd)]

/-- Two tildes at the end pair off, and a run and a single character come before them. -/
theorem opensAsPrefix_paired_tildes :
    ({ caseSensitive := true } : Options).caseSensitive = true ∧
      OpensAsPrefix { caseSensitive := true } "~*a*?~~" :=
  ⟨rfl, (opensAsPrefix_iff_even { caseSensitive := true } rfl "~*a*?~~").1.mpr (by decide)⟩

/-- A bare text that ends in a lone tilde accepts itself, and no longer does once its end is
open. -/
theorem not_opensAsPrefix_lone_tilde :
    Options.test { caseSensitive := true } (.text "a~") ⟨.bare, .text "a~"⟩ = true ∧
      Options.test { caseSensitive := true } (.text "a~")
        (Condition.openEnd ⟨.bare, .text "a~"⟩) = false ∧
      ¬ OpensAsPrefix { caseSensitive := true } "a~" := by
  have hbare : Options.test { caseSensitive := true } (.text "a~") ⟨.bare, .text "a~"⟩ = true := by
    rw [test_bare_text_iff _ rfl]
    exact .literal 'a' _ _ (.literal '~' _ _ .nil)
  have hopen : Options.test { caseSensitive := true } (.text "a~")
      (Condition.openEnd ⟨.bare, .text "a~"⟩) = false := by
    rw [← Bool.not_eq_true, openEnd_text, test_bare_text_iff _ rfl]
    simp [tokens]
  refine ⟨hbare, hopen, fun hopens ↦ ?_⟩
  have haccepted := (hopens "a~").mpr ⟨"a~", List.prefix_rfl, hbare⟩
  rw [hopen] at haccepted
  cases haccepted

end Worksheet.Criteria
