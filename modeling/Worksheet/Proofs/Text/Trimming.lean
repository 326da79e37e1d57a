import Worksheet.Text.Blank

/-!
What trimming leaves of a text.

`Trims` says it without the functions: a text is cut into blanks, a core and blanks, so that the
core has no blank at either end. There is one such cut, and trimming finds it (`trim_eq_iff`).
`TrimsStart` says the same of the blanks in front alone (`trimStart_eq_iff`). The lemmas on the end
of a text are those on its start, read backwards (`trimEnd_eq_reverse`).
-/

set_option autoImplicit false
set_option relaxedAutoImplicit false

namespace Worksheet.Text

/-- The text is its core between blanks, and the core has no blank at either end. -/
structure Trims (cs core : List Char) : Prop where
  between : ∃ before after, cs = before ++ core ++ after ∧
    (∀ c ∈ before, isBlank c = true) ∧ ∀ c ∈ after, isBlank c = true
  head : ∀ c ∈ core.head?, isBlank c = false
  last : ∀ c ∈ core.getLast?, isBlank c = false

/-- The text is blanks and then its rest, which begins with no blank. -/
structure TrimsStart (cs rest : List Char) : Prop where
  behind : ∃ before, cs = before ++ rest ∧ ∀ c ∈ before, isBlank c = true
  head : ∀ c ∈ rest.head?, isBlank c = false

theorem trimStart_append {bs : List Char} (hbs : ∀ c ∈ bs, isBlank c = true) (cs : List Char) :
    trimStart (bs ++ cs) = trimStart cs :=
  List.dropWhile_append_of_pos hbs

theorem exists_append_trimStart (cs : List Char) :
    ∃ bs, cs = bs ++ trimStart cs ∧ ∀ c ∈ bs, isBlank c = true :=
  ⟨cs.takeWhile isBlank, List.takeWhile_append_dropWhile.symm,
    List.all_eq_true.mp List.all_takeWhile⟩

theorem not_isBlank_head_trimStart {cs : List Char} {c : Char} (h : c ∈ (trimStart cs).head?) :
    isBlank c = false := by
  have hfirst : (cs.dropWhile isBlank).head? = some c := h
  have hnot := List.head?_dropWhile_not isBlank cs
  rwa [hfirst] at hnot

theorem trimStart_eq_iff (cs rest : List Char) : trimStart cs = rest ↔ TrimsStart cs rest := by
  constructor
  · rintro rfl
    exact ⟨exists_append_trimStart cs, fun _ ↦ not_isBlank_head_trimStart⟩
  · rintro ⟨⟨before, rfl, hbefore⟩, hhead⟩
    rw [trimStart_append hbefore, trimStart_eq_self rest hhead]

/-- What holds of the blanks in front holds of those behind, read backwards. -/
theorem trimEnd_eq_reverse (cs : List Char) : trimEnd cs = (trimStart cs.reverse).reverse := rfl

theorem trimEnd_append {bs : List Char} (cs : List Char) (hbs : ∀ c ∈ bs, isBlank c = true) :
    trimEnd (cs ++ bs) = trimEnd cs := by
  rw [trimEnd_eq_reverse, List.reverse_append,
    trimStart_append fun c hc ↦ hbs c (List.mem_reverse.mp hc), trimEnd_eq_reverse]

theorem exists_trimEnd_append (cs : List Char) :
    ∃ bs, cs = trimEnd cs ++ bs ∧ ∀ c ∈ bs, isBlank c = true := by
  obtain ⟨bs, happend, hbs⟩ := exists_append_trimStart cs.reverse
  refine ⟨bs.reverse, ?_, fun c hc ↦ hbs c (List.mem_reverse.mp hc)⟩
  rw [trimEnd_eq_reverse, ← List.reverse_append, ← happend, List.reverse_reverse]

theorem not_isBlank_last_trimEnd {cs : List Char} {c : Char} (h : c ∈ (trimEnd cs).getLast?) :
    isBlank c = false := by
  rw [trimEnd_eq_reverse, List.getLast?_reverse] at h
  exact not_isBlank_head_trimStart h

theorem trimEnd_eq_self {cs : List Char} (h : ∀ c ∈ cs.getLast?, isBlank c = false) :
    trimEnd cs = cs := by
  rw [trimEnd_eq_reverse, trimStart_eq_self, List.reverse_reverse]
  rwa [List.head?_reverse]

theorem trims_trim (cs : List Char) : Trims cs (trim cs) := by
  obtain ⟨before, hstart, hbefore⟩ := exists_append_trimStart cs
  obtain ⟨after, hend, hafter⟩ := exists_trimEnd_append (trimStart cs)
  have hcs : cs = before ++ trim cs ++ after := by
    rw [List.append_assoc, trim, ← hend]
    exact hstart
  refine ⟨⟨before, after, hcs, hbefore, hafter⟩, fun c hc ↦ ?_, fun c hc ↦
    not_isBlank_last_trimEnd hc⟩
  -- The core begins where the text without its first blanks begins.
  have hcore : (trimEnd (trimStart cs)).head? = some c := hc
  have hhead : (trimStart cs).head? = some c := by
    rw [hend, List.head?_append, hcore]
    rfl
  exact not_isBlank_head_trimStart hhead

theorem Trims.trim_eq {cs core : List Char} (h : Trims cs core) : trim cs = core := by
  obtain ⟨before, after, rfl, hbefore, hafter⟩ := h.between
  rw [trim, List.append_assoc, trimStart_append hbefore]
  cases core with
  | nil =>
    have hblank := trimStart_append hafter []
    rw [List.append_nil] at hblank
    rw [List.nil_append, hblank]
    rfl
  | cons c core =>
    have hstart : trimStart (c :: core ++ after) = c :: core ++ after :=
      trimStart_eq_self _ h.head
    rw [hstart, trimEnd_append _ hafter, trimEnd_eq_self h.last]

theorem trim_eq_iff (cs core : List Char) : trim cs = core ↔ Trims cs core :=
  ⟨fun h ↦ h ▸ trims_trim cs, Trims.trim_eq⟩

end Worksheet.Text
