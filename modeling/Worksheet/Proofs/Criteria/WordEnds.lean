import Worksheet.Proofs.Criteria.FoldedPatterns

/-!
Sigmas at the ends of words, in a pattern and in the texts that it stands for.

Whether a sigma ends a word is decided by the letters next to it. Where these are literals of the
pattern, they are the same in every text; behind a wildcard any letter may stand
(`endsWord_eq_iff`). So it can be computed from a pattern whether its capital sigmas end words in
the pattern where they do in the texts (`SigmasKeepEnds`).
-/

set_option autoImplicit false
set_option relaxedAutoImplicit false

namespace Worksheet.Criteria.Wildcard

open Text.Lowercase

/-- Each capital sigma of a pattern ends a word in the pattern exactly if it ends one in the texts
that the pattern stands for. -/
def SigmasKeepEnds (p : List Char) : Prop :=
  ∀ front q back, pieces p = front ++ q :: back → q.token = .literal capitalSigma →
    ∀ before after, Matches (front.map Piece.token) before →
      Matches (back.map Piece.token) after →
        endsWord before.reverse after =
          endsWord (spelling front ++ q.lead).reverse (spelling back)

/-! ### The letter that is met first -/

/-- Whether the texts of a pattern begin with a letter that has case, ignorable characters aside;
none when a wildcard leaves it open. -/
def sight : List Token → Option Bool
  | [] => some false
  | .literal c :: ts => if isIgnorable c then sight ts else some (isCased c)
  | _ => none

/-- What is in sight is met in every text of the pattern. -/
theorem meetsCased_of_sight {ts : List Token} {b : Bool} (h : sight ts = some b) {cs : List Char}
    (hmatches : Matches ts cs) : meetsCased cs = b := by
  induction ts generalizing cs with
  | nil =>
    cases hmatches
    exact Option.some.inj h
  | cons t ts ih =>
    cases t with
    | run => cases h
    | one => cases h
    | literal c =>
      cases hmatches with
      | literal _ _ cs hmatches =>
        unfold sight at h
        rw [meetsCased_cons]
        split at h
        · next hignorable => rw [if_pos hignorable, ih h hmatches]
        · next hignorable => rw [if_neg hignorable, Option.some.inj h]

/-- Behind a wildcard a letter may stand or none. -/
theorem exists_meetsCased {ts : List Token} (h : sight ts = none) (b : Bool) :
    ∃ cs, Matches ts cs ∧ meetsCased cs = b := by
  induction ts with
  | nil => cases h
  | cons t ts ih =>
    obtain ⟨rest, hrest⟩ := exists_matches ts
    have hmet := meetsCased_specimen_cons b rest
    cases t with
    | run => exact ⟨_, .extend _ ts rest (.stop ts rest hrest), hmet⟩
    | one => exact ⟨_, .one _ ts rest hrest, hmet⟩
    | literal c =>
      unfold sight at h
      split at h
      · next hignorable =>
        obtain ⟨cs, hmatches, hcs⟩ := ih h
        exact ⟨c :: cs, .literal c ts cs hmatches, by rw [meetsCased_cons, if_pos hignorable, hcs]⟩
      · cases h

/-- What the texts of a pattern can begin with. -/
theorem exists_meetsCased_iff (ts : List Token) (b : Bool) :
    (∃ cs, Matches ts cs ∧ meetsCased cs = b) ↔ ∀ met ∈ sight ts, met = b := by
  cases h : sight ts with
  | none => exact iff_of_true (exists_meetsCased h b) fun _ hmet ↦ nomatch hmet
  | some met =>
    obtain ⟨rest, hrest⟩ := exists_matches ts
    constructor
    · rintro ⟨cs, hcs, rfl⟩ _ ⟨⟩
      exact (meetsCased_of_sight h hcs).symm
    · intro hb
      exact ⟨rest, hrest, (meetsCased_of_sight h hrest).trans (hb met rfl)⟩

theorem Token.Takes.reverse {t : Token} {taken : List Char} (h : t.Takes taken) :
    t.Takes taken.reverse := by
  cases t with
  | run => trivial
  | one =>
    obtain ⟨c, rfl⟩ := h
    exact ⟨c, rfl⟩
  | literal c =>
    obtain rfl := h
    rfl

/-- A pattern read from its end stands for the texts read from theirs. -/
theorem matches_reverse {ts : List Token} {cs : List Char} (h : Matches ts cs) :
    Matches ts.reverse cs.reverse := by
  induction ts generalizing cs with
  | nil =>
    cases h
    exact .nil
  | cons t ts ih =>
    obtain ⟨taken, rest, rfl, htakes, hrest⟩ := (matches_cons_iff t ts cs).mp h
    rw [List.reverse_cons, List.reverse_append]
    exact (ih hrest).append htakes.reverse.matches

theorem exists_meetsCased_reverse_iff (ts : List Token) (b : Bool) :
    (∃ cs, Matches ts cs ∧ meetsCased cs.reverse = b) ↔ ∀ met ∈ sight ts.reverse, met = b := by
  rw [← exists_meetsCased_iff]
  constructor
  · rintro ⟨cs, hcs, hmet⟩
    exact ⟨_, matches_reverse hcs, hmet⟩
  · rintro ⟨cs, hcs, hmet⟩
    refine ⟨cs.reverse, ?_, by rwa [List.reverse_reverse]⟩
    rw [← List.reverse_reverse ts]
    exact matches_reverse hcs

/-! ### The end of a word -/

/-- Whether a sigma ends a word, from what is met behind it and ahead of it; none when this is left
open. -/
def forcedEnd (behind ahead : Option Bool) : Option Bool :=
  match behind, ahead with
  | some false, _ => some false
  | _, some true => some false
  | some true, some false => some true
  | _, _ => none

theorem forcedEnd_eq_some_iff (behind ahead : Option Bool) (b : Bool) :
    forcedEnd behind ahead = some b ↔
      ∀ x y, (∀ met ∈ behind, met = x) → (∀ met ∈ ahead, met = y) → (x && !y) = b := by
  rcases behind with _ | _ | _ <;> rcases ahead with _ | _ | _ <;> cases b <;>
    simp [forcedEnd]

/-- Between two patterns a sigma ends a word in all texts, or in none, only if this follows from the
literals next to it. -/
theorem endsWord_eq_iff (front back : List Token) (b : Bool) :
    (∀ before after, Matches front before → Matches back after →
      endsWord before.reverse after = b) ↔
        forcedEnd (sight front.reverse) (sight back) = some b := by
  rw [forcedEnd_eq_some_iff]
  constructor
  · intro hends x y hx hy
    obtain ⟨before, hbefore, rfl⟩ := (exists_meetsCased_reverse_iff front x).mpr hx
    obtain ⟨after, hafter, rfl⟩ := (exists_meetsCased_iff back y).mpr hy
    exact hends before after hbefore hafter
  · intro hforced before after hbefore hafter
    exact hforced _ _ ((exists_meetsCased_reverse_iff front _).mp ⟨before, hbefore, rfl⟩)
      ((exists_meetsCased_iff back _).mp ⟨after, hafter, rfl⟩)

/-- The sigma of a piece ends a word in all texts or in none, as it does in the pattern. -/
def KeepsEnd (front : List Piece) (q : Piece) (back : List Piece) : Prop :=
  q.token = .literal capitalSigma →
    forcedEnd (sight (front.map Piece.token).reverse) (sight (back.map Piece.token)) =
      some (endsWord (spelling front ++ q.lead).reverse (spelling back))

theorem sigmasKeepEnds_iff (p : List Char) :
    SigmasKeepEnds p ↔ ∀ front q back, pieces p = front ++ q :: back → KeepsEnd front q back :=
  forall₅_congr fun _ _ _ _ _ ↦ endsWord_eq_iff _ _ _

instance (front : List Piece) (q : Piece) (back : List Piece) : Decidable (KeepsEnd front q back) :=
  inferInstanceAs (Decidable (_ → _))

instance (p : List Char) : Decidable (SigmasKeepEnds p) :=
  decidable_of_iff (∀ i : Fin (pieces p).length,
      KeepsEnd ((pieces p).take i) (pieces p)[i] ((pieces p).drop (i + 1))) (by
    rw [sigmasKeepEnds_iff]
    constructor
    · intro h front q back hp
      have hi : front.length < (pieces p).length := by simp [hp]
      simpa [hp] using h ⟨front.length, hi⟩
    · intro h i
      refine h _ _ _ ?_
      simp)

end Worksheet.Criteria.Wildcard
