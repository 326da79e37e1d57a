import Mathlib.Data.List.Forall2
import Worksheet.Text.Lowercase

/-!
Lowercase images, one character after the other.

The image of a character depends on its neighbours for a capital sigma only (`imageAt_congr`), and
it is a single character but for a dotted capital I (`exists_imageAt_eq`). No character becomes a
small sigma unless it is a sigma (`countP_imageAt`), and none becomes one of the characters with
which wildcards are written (`not_isMark_of_mem_imageAt`).
-/

set_option autoImplicit false
set_option relaxedAutoImplicit false

namespace Worksheet.Text.Lowercase

/-- The lowercase image of a character with the characters before it, the last one first, and those
after it. -/
def imageAt (before after : List Char) (c : Char) : List Char :=
  if c = capitalSigma then [if endsWord before after then finalSigma else smallSigma]
  else letter c

theorem chars_cons (before : List Char) (c : Char) (after : List Char) :
    chars before (c :: after) = imageAt before after c ++ chars (c :: before) after := rfl

/-- Only the image of a capital sigma depends on the characters around it. -/
theorem imageAt_congr {before after before' after' : List Char} {c : Char}
    (h : c = capitalSigma → endsWord before after = endsWord before' after') :
    imageAt before after c = imageAt before' after' c := by
  unfold imageAt
  split
  · next hc => rw [h hc]
  · rfl

theorem imageAt_capitalSigma (before after : List Char) :
    imageAt before after capitalSigma =
      [if endsWord before after then finalSigma else smallSigma] := if_pos rfl

/-- One of the characters with which wildcards are written. -/
def isMark (c : Char) : Bool := c == '~' || c == '*' || c == '?'

def isSmallSigma (c : Char) : Bool := c == smallSigma || c == finalSigma

def isSigma (c : Char) : Bool := c == capitalSigma || isSmallSigma c

theorem beq_iff_toNat_eq (c d : Char) : (c == d) = true ↔ c.toNat = d.toNat := by
  rw [beq_iff_eq, Char.toNat_inj]

theorem not_isMark_iff (c : Char) : isMark c = false ↔ c ≠ '~' ∧ c ≠ '*' ∧ c ≠ '?' := by
  simp [isMark, and_assoc]

theorem isMark_iff (c : Char) :
    isMark c = true ↔ c.toNat = 0x7E ∨ c.toNat = 0x2A ∨ c.toNat = 0x3F := by
  simp only [isMark, Bool.or_eq_true, beq_iff_toNat_eq, or_assoc]
  rfl

theorem isSmallSigma_iff (c : Char) :
    isSmallSigma c = true ↔ c.toNat = 0x3C3 ∨ c.toNat = 0x3C2 := by
  simp only [isSmallSigma, Bool.or_eq_true, beq_iff_toNat_eq]
  rfl

/-- The one character is a mark if the other is, and, the capital sigma aside, a small sigma if the
other is. -/
structure Faithful (c d : Char) : Prop where
  isMark_eq : isMark d = isMark c
  isSmallSigma_eq : c ≠ capitalSigma → isSmallSigma d = isSmallSigma c

instance (c d : Char) : Decidable (Faithful c d) :=
  decidable_of_iff (isMark d = isMark c ∧ (c ≠ capitalSigma → isSmallSigma d = isSmallSigma c))
    ⟨fun h ↦ ⟨h.1, h.2⟩, fun h ↦ ⟨h.1, h.2⟩⟩

theorem faithful_toLower {c : Char} (hc : c.toNat < 0x80) : Faithful c c.toLower := by
  have hascii : ∀ n < 0x80, Faithful (Char.ofNat n) (Char.ofNat n).toLower := by decide +kernel
  have h := hascii c.toNat hc
  rwa [Char.ofNat_toNat] at h

/-- What has to be checked of a run: it begins beyond the marks, its images are no marks, and only
the run of the capital sigma leads to a small one. -/
def Run.Passes (run : Run) : Prop :=
  0x7E < run.first ∧ (0x7E < run.image ∨ (0x3F < run.image ∧ run.first = run.last)) ∧
    run.image ≠ 0x7E ∧
    (run.last < 0x3C2 ∨ 0x3C3 < run.first) ∧
    (run.image + (run.last - run.first) < 0x3C2 ∨ 0x3C3 < run.image ∨
      (run.image = 0x3C3 ∧ run.first = 0x3A3))

instance (run : Run) : Decidable run.Passes := inferInstanceAs (Decidable (_ ∧ _ ∧ _ ∧ _ ∧ _))

theorem passes_of_mem_runs : ∀ run ∈ runs, run.Passes := by decide +kernel

theorem toNat_ofNat_eq_or (n : Nat) : (Char.ofNat n).toNat = n ∨ (Char.ofNat n).toNat = 0 := by
  by_cases hvalid : n.isValidChar
  · exact Or.inl (by rw [Char.ofNat, dif_pos hvalid]; rfl)
  · exact Or.inr (by rw [Char.ofNat, dif_neg hvalid]; rfl)

/-- The table of images is faithful, since each of its runs passes the check. -/
theorem faithful_image? {c d : Char} (h : image? c = some d) : Faithful c d := by
  obtain ⟨n, hn, rfl⟩ := Option.map_eq_some_iff.mp h
  obtain ⟨run, hrun, himage⟩ := List.exists_of_findSome?_eq_some hn
  unfold Run.imageOf? at himage
  obtain ⟨⟨hfirst, hlast, -⟩, hvalue⟩ := Option.ite_none_right_eq_some.mp himage
  have hvalue := Option.some.inj hvalue
  obtain ⟨hbegin, hmark, hne, hcapital, hsigma⟩ := passes_of_mem_runs run hrun
  have hcode := toNat_ofNat_eq_or n
  refine ⟨?_, fun hc ↦ ?_⟩
  · rw [Bool.eq_iff_iff, isMark_iff, isMark_iff]
    omega
  · have hcode' : c.toNat ≠ 0x3A3 := fun heq ↦ hc (Char.toNat_inj.mp heq)
    rw [Bool.eq_iff_iff, isSmallSigma_iff, isSmallSigma_iff]
    omega

theorem faithful_self (c : Char) : Faithful c c where
  isMark_eq := rfl
  isSmallSigma_eq _ := rfl

/-- Every character but the dotted capital I has one character as its image. -/
theorem exists_letter_eq {c : Char} (hdotted : c ≠ dottedCapitalI) :
    ∃ d, letter c = [d] ∧ Faithful c d := by
  unfold letter
  split
  · next hascii => exact ⟨_, rfl, faithful_toLower hascii⟩
  · cases himage : image? c with
    | none => exact ⟨c, rfl, faithful_self c⟩
    | some d => exact ⟨d, rfl, faithful_image? himage⟩

/-- One image for each character but the dotted capital I, with a small sigma for each sigma. -/
theorem exists_imageAt_eq (before after : List Char) {c : Char} (hdotted : c ≠ dottedCapitalI) :
    ∃ d, imageAt before after c = [d] ∧ isMark d = isMark c ∧ isSmallSigma d = isSigma c := by
  by_cases hc : c = capitalSigma
  · subst hc
    rw [imageAt_capitalSigma]
    refine ⟨_, rfl, ?_⟩
    split <;> decide
  · obtain ⟨d, hletter, hfaithful⟩ := exists_letter_eq hdotted
    have hsigma : isSigma c = isSmallSigma c := by simp [isSigma, hc]
    exact ⟨d, (if_neg hc).trans hletter, hfaithful.isMark_eq,
      (hfaithful.isSmallSigma_eq hc).trans hsigma.symm⟩

/-- The one image of two characters. -/
theorem imageAt_dottedCapitalI (before after : List Char) :
    imageAt before after dottedCapitalI = ['i', dotAbove] := by
  unfold imageAt letter
  rw [if_neg (by decide), if_neg (by decide), if_pos rfl]

theorem imageAt_ne_nil (before after : List Char) (c : Char) : imageAt before after c ≠ [] := by
  by_cases hc : c = dottedCapitalI
  · rw [hc, imageAt_dottedCapitalI]
    exact List.cons_ne_nil _ _
  · obtain ⟨d, himage, -⟩ := exists_imageAt_eq before after hc
    rw [himage]
    exact List.cons_ne_nil _ _

theorem chars_eq_nil_iff (before cs : List Char) : chars before cs = [] ↔ cs = [] := by
  cases cs with
  | nil => exact iff_of_true rfl rfl
  | cons c cs =>
    refine iff_of_false ?_ (List.cons_ne_nil c cs)
    rw [chars_cons]
    exact List.append_ne_nil_of_left_ne_nil (imageAt_ne_nil _ _ c) _

/-- A mark is its own image. -/
theorem imageAt_of_isMark (before after : List Char) {c : Char} (h : isMark c = true) :
    imageAt before after c = [c] := by
  have hmarks : c = '~' ∨ c = '*' ∨ c = '?' := by simpa [isMark, or_assoc] using h
  unfold imageAt letter
  rcases hmarks with rfl | rfl | rfl <;> rfl

theorem not_isMark_of_mem_imageAt {before after : List Char} {c : Char} (h : isMark c = false) :
    ∀ d ∈ imageAt before after c, isMark d = false := by
  by_cases hc : c = dottedCapitalI
  · rw [hc, imageAt_dottedCapitalI]
    exact List.forall_mem_cons.mpr ⟨rfl, List.forall_mem_singleton.mpr rfl⟩
  · obtain ⟨d, himage, hmark, -⟩ := exists_imageAt_eq before after hc
    rw [himage]
    exact List.forall_mem_singleton.mpr (hmark.trans h)

/-- Only the first character of an image can be a mark. -/
theorem not_isMark_of_mem_tail {before after : List Char} {c : Char} :
    ∀ d ∈ (imageAt before after c).tail, isMark d = false := by
  by_cases hc : c = dottedCapitalI
  · rw [hc, imageAt_dottedCapitalI]
    exact List.forall_mem_singleton.mpr rfl
  · obtain ⟨d, himage, -⟩ := exists_imageAt_eq before after hc
    rw [himage]
    exact fun _ hd ↦ nomatch hd

/-- An image has a small sigma exactly for a sigma. -/
theorem countP_imageAt (before after : List Char) (c : Char) :
    (imageAt before after c).countP isSmallSigma = [c].countP isSigma := by
  by_cases hc : c = dottedCapitalI
  · rw [hc, imageAt_dottedCapitalI]
    decide
  · obtain ⟨d, himage, -, hsigma⟩ := exists_imageAt_eq before after hc
    rw [himage, List.countP_singleton, List.countP_singleton, hsigma]

/-- The images of a text come one after the other, with as many small sigmas as it has sigmas. -/
theorem exists_chars_append (before cs ds : List Char) :
    ∃ front, chars before (cs ++ ds) = front ++ chars (cs.reverse ++ before) ds ∧
      front.countP isSmallSigma = cs.countP isSigma := by
  induction cs generalizing before with
  | nil => exact ⟨[], rfl, rfl⟩
  | cons c cs ih =>
    obtain ⟨front, hfront, hcount⟩ := ih (c :: before)
    refine ⟨imageAt before (cs ++ ds) c ++ front, ?_, ?_⟩
    · rw [List.cons_append, chars_cons, hfront, List.reverse_cons, List.append_assoc,
        List.append_assoc]
      rfl
    · rw [List.countP_append, countP_imageAt, hcount, ← List.countP_append]
      rfl

theorem countP_chars (before cs : List Char) :
    (chars before cs).countP isSmallSigma = cs.countP isSigma := by
  obtain ⟨front, hfront, hcount⟩ := exists_chars_append before cs []
  rw [List.append_nil] at hfront
  rw [hfront]
  simpa [chars] using hcount

/-! ### Neighbours alike -/

/-- The two characters say the same about a sigma beside them. -/
def Alike (c d : Char) : Prop :=
  isIgnorable c = isIgnorable d ∧ (isIgnorable c = false → isCased c = isCased d)

theorem alike_refl (c : Char) : Alike c c := ⟨rfl, fun _ ↦ rfl⟩

theorem meetsCased_cons (c : Char) (cs : List Char) :
    meetsCased (c :: cs) = if isIgnorable c then meetsCased cs else isCased c := by
  unfold meetsCased
  rw [List.dropWhile_cons]
  split <;> rfl

/-- Characters alike leave the end of a word where it is. -/
theorem meetsCased_congr {cs ds : List Char} (h : List.Forall₂ Alike cs ds) :
    meetsCased cs = meetsCased ds := by
  induction h with
  | nil => rfl
  | @cons c d cs ds hcd _ ih =>
    rw [meetsCased_cons, meetsCased_cons, ← hcd.1, ih]
    split
    · rfl
    · next hignorable => exact hcd.2 (Bool.eq_false_iff.mpr hignorable)

/-- A letter that has case, or a blank. -/
def specimen (cased : Bool) : Char := if cased then 'a' else ' '

theorem isIgnorable_specimen (b : Bool) : isIgnorable (specimen b) = false := by
  revert b
  decide +kernel

theorem isCased_specimen (b : Bool) : isCased (specimen b) = b := by
  revert b
  decide +kernel

theorem meetsCased_specimen_cons (b : Bool) (cs : List Char) :
    meetsCased (specimen b :: cs) = b := by
  rw [meetsCased_cons, isIgnorable_specimen, if_neg Bool.false_ne_true, isCased_specimen]

/-- A character that is alike and neither a sigma nor a dotted capital I. -/
def standIn (c : Char) : Char := if isIgnorable c then '.' else specimen (isCased c)

theorem alike_standIn (c : Char) : Alike c (standIn c) := by
  have hpoint : isIgnorable '.' = true := by decide +kernel
  unfold standIn
  split
  · next hignorable =>
    exact ⟨hignorable.trans hpoint.symm, fun h ↦ absurd (hignorable.symm.trans h) (by decide)⟩
  · next hignorable =>
    refine ⟨(Bool.eq_false_iff.mpr hignorable).trans (isIgnorable_specimen _).symm, fun _ ↦ ?_⟩
    exact (isCased_specimen _).symm

theorem standIn_eq_or (c : Char) : standIn c = '.' ∨ standIn c = 'a' ∨ standIn c = ' ' := by
  unfold standIn specimen
  split
  · exact Or.inl rfl
  · cases isCased c
    · exact Or.inr (Or.inr rfl)
    · exact Or.inr (Or.inl rfl)

theorem countP_standIn_cons (c : Char) (cs : List Char) :
    (standIn c :: cs).countP isSigma = cs.countP isSigma := by
  refine List.countP_cons_of_neg ?_
  rcases standIn_eq_or c with h | h | h <;> rw [h] <;> decide

theorem count_standIn_cons (c : Char) (cs : List Char) :
    (standIn c :: cs).count dottedCapitalI = cs.count dottedCapitalI := by
  refine List.count_cons_of_ne ?_
  rcases standIn_eq_or c with h | h | h <;> rw [h] <;> decide

end Worksheet.Text.Lowercase
