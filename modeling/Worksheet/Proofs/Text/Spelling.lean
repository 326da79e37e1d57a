import Mathlib.Data.List.Forall2
import Worksheet.Proofs.Text.Trimming
import Worksheet.Text.Ascii

/-!
The spellings of a word: the word in any ASCII case, with blanks around it.

`SameLetter` pairs a letter with its two cases, apart from the function that brings a text into one
of them (`sameLetter_iff`). With `Trims` for the blanks, a text is a spelling of a word exactly when
its trimmed lower case is the lower case of the word (`isSpelling_iff`).
-/

set_option autoImplicit false
set_option relaxedAutoImplicit false

namespace Worksheet.Text

/-! ### Letters of either case -/

/-- The same character, or the two cases of an ASCII letter: the small letter stands 32 places
behind the capital. -/
def SameLetter (c d : Char) : Prop :=
  c = d ∨ (c.isUpper = true ∧ d.toNat = c.toNat + 32) ∨ (d.isUpper = true ∧ c.toNat = d.toNat + 32)

theorem isUpper_iff (c : Char) : c.isUpper = true ↔ 65 ≤ c.toNat ∧ c.toNat ≤ 90 :=
  decide_eq_true_iff

theorem sameLetter_iff (c d : Char) : SameLetter c d ↔ c.toLower = d.toLower := by
  rw [SameLetter, isUpper_iff, isUpper_iff, ← Char.toNat_inj, ← Char.toNat_inj, toNat_toLower,
    toNat_toLower]
  split <;> split <;> omega

/-- No character beyond ASCII has another case. -/
theorem SameLetter.lt_of_lt {c d : Char} (h : SameLetter c d) (hd : d.toNat < 128) :
    c.toNat < 128 := by
  rw [SameLetter, isUpper_iff, isUpper_iff] at h
  rcases h with rfl | ⟨h, -⟩ | ⟨h, hc⟩ <;> omega

/-! ### Spellings -/

/-- The text is the word in any ASCII case, with blanks around it. -/
def IsSpelling (s word : String) : Prop :=
  ∃ core, Trims s.toList core ∧ List.Forall₂ SameLetter core word.toList

theorem forall₂_sameLetter_iff (cs ds : List Char) :
    List.Forall₂ SameLetter cs ds ↔ cs.map Char.toLower = ds.map Char.toLower := by
  have hsame : SameLetter = fun c d ↦ c.toLower = d.toLower := by
    funext c d
    exact propext (sameLetter_iff c d)
  rw [hsame, ← List.forall₂_eq_eq_eq, List.forall₂_map_left_iff, List.forall₂_map_right_iff]

/-- It makes no difference whether texts are compared letter by letter or after the letters of both
are brought to capitals. -/
theorem forall₂_sameLetter_iff_asciiUpper (s t : String) :
    List.Forall₂ SameLetter s.toList t.toList ↔ asciiUpper s = asciiUpper t := by
  rw [← sameIgnoringAsciiCase_iff_asciiUpper, sameIgnoringAsciiCase, beq_iff_eq,
    forall₂_sameLetter_iff, ← String.toList_inj, toList_asciiLower, toList_asciiLower]

theorem isSpelling_iff (s word : String) :
    IsSpelling s word ↔ asciiLower (trimmed s) = asciiLower word := by
  simp only [IsSpelling, ← trim_eq_iff, exists_eq_left', forall₂_sameLetter_iff,
    ← String.toList_inj, toList_asciiLower, toList_trimmed]

/-- Beyond ASCII a spelling of an ASCII word has nothing but blanks. -/
theorem IsSpelling.blank_or_ascii {s word : String} (h : IsSpelling s word)
    (hword : ∀ d ∈ word.toList, d.toNat < 128) :
    ∀ c ∈ s.toList, isBlank c = true ∨ c.toNat < 128 := by
  obtain ⟨core, htrims, hletters⟩ := h
  have hcore : ∀ c ∈ core, c.toNat < 128 := by
    intro c hc
    obtain ⟨i, hi, rfl⟩ := List.getElem_of_mem hc
    have hlt : i < word.toList.length := hletters.length_eq ▸ hi
    exact (hletters.get hi hlt).lt_of_lt (hword _ (List.getElem_mem hlt))
  obtain ⟨before, after, hcs, hbefore, hafter⟩ := htrims.between
  intro c hc
  rw [hcs] at hc
  simp only [List.mem_append] at hc
  rcases hc with (hc | hc) | hc
  · exact Or.inl (hbefore c hc)
  · exact Or.inr (hcore c hc)
  · exact Or.inl (hafter c hc)

end Worksheet.Text
