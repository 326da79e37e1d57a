import Worksheet.Proofs.Criteria.WordEnds

/-!
Texts that match whatever their case.

Pattern and text are brought to lowercase apart from each other, and the images of two characters
depend on more than the character. A capital sigma that ends a word becomes the final sigma, so that
one of the pattern stays equal to one of the text only if both end a word or neither does
(`SigmasKeepEnds`). A dotted capital I becomes two characters, for which a wildcard for a single
character has no place, unless a star stands beside it (`onesBesideRuns`).
-/

set_option autoImplicit false
set_option relaxedAutoImplicit false

namespace Worksheet.Criteria

open Text.Lowercase

namespace Wildcard

/-! ### Wildcards beside stars -/

/-- Only wildcards stand between the start and a star. -/
def runAhead : List Token → Bool
  | .run :: _ => true
  | .one :: ts => runAhead ts
  | _ => false

/-- Every wildcard for a single character has a star beside it, perhaps behind or ahead of further
wildcards; the flag says whether there is one behind the start. -/
def onesBesideRuns (behind : Bool) : List Token → Bool
  | [] => true
  | .run :: ts => onesBesideRuns true ts
  | .one :: ts => (behind || runAhead ts) && onesBesideRuns behind ts
  | .literal _ :: ts => onesBesideRuns false ts

theorem matches_cons_of_runAhead {ts : List Token} (h : runAhead ts = true) (c : Char)
    {cs : List Char} (hmatches : Matches ts cs) : Matches ts (c :: cs) := by
  induction ts generalizing c cs with
  | nil => cases h
  | cons t ts ih =>
    cases t with
    | run => exact .extend c ts cs hmatches
    | one =>
      cases hmatches with
      | one d _ cs hmatches => exact .one c _ _ (ih h d hmatches)
    | literal d => cases h

/-- The star ahead takes what more there is. -/
theorem matches_append_of_runAhead {ts : List Token} (h : runAhead ts = true) (more : List Char)
    {cs : List Char} (hmatches : Matches ts cs) : Matches ts (more ++ cs) := by
  induction more with
  | nil => exact hmatches
  | cons c more ih => exact matches_cons_of_runAhead h c ih

theorem runAhead_foldedPieces (before : List Char) {qs : List Piece}
    (h : runAhead (qs.map Piece.token) = true) : runAhead (foldedPieces before qs) = true := by
  induction qs generalizing before with
  | nil => cases h
  | cons q qs ih =>
    obtain ⟨escaped, token⟩ := q
    cases token with
    | run => rfl
    | one => exact ih _ h
    | literal c => cases h

/-! ### From the text to its lowercase -/

/-- The pattern stands for the text, but for a start that a star behind may take. -/
def MatchesBehind (behind : Bool) (ts : List Token) (cs : List Char) : Prop :=
  ∃ taken rest, cs = taken ++ rest ∧ (behind = false → taken = []) ∧ Matches ts rest

/-- Behind its star a pattern may leave a start of the text to it. -/
theorem MatchesBehind.run {ts : List Token} {cs : List Char} (h : MatchesBehind true ts cs)
    (behind : Bool) (more : List Char) : MatchesBehind behind (.run :: ts) (more ++ cs) := by
  obtain ⟨taken, rest, rfl, -, h⟩ := h
  have hrest : rest <:+ more ++ (taken ++ rest) := ⟨more ++ taken, List.append_assoc ..⟩
  exact ⟨[], _, rfl, fun _ ↦ rfl, (matches_run_iff _ _).mpr ⟨rest, hrest, h⟩⟩

theorem matches_map_literal (cs : List Char) {ts : List Token} {rest : List Char}
    (h : Matches ts rest) : Matches (cs.map .literal ++ ts) (cs ++ rest) := by
  induction cs with
  | nil => exact h
  | cons c cs ih => exact .literal c _ _ ih

theorem MatchesBehind.literals {ts : List Token} {cs : List Char} (h : MatchesBehind false ts cs)
    (behind : Bool) (image : List Char) :
    MatchesBehind behind (image.map .literal ++ ts) (image ++ cs) := by
  obtain ⟨taken, rest, rfl, htaken, h⟩ := h
  obtain rfl := htaken rfl
  exact ⟨[], _, rfl, fun _ ↦ rfl, matches_map_literal image h⟩

/-- A wildcard for a single character stands for an image of two only beside a star. -/
theorem MatchesBehind.one {ts : List Token} {cs : List Char} {behind : Bool}
    (h : MatchesBehind behind ts cs) {image : List Char} (hne : image ≠ [])
    (hone : behind = true ∨ runAhead ts = true ∨ image.tail = []) :
    MatchesBehind behind (.one :: ts) (image ++ cs) := by
  obtain ⟨taken, rest, rfl, htaken, h⟩ := h
  cases behind with
  | true =>
    -- The star behind takes all characters but the last.
    have hne' : image ++ taken ≠ [] := List.append_ne_nil_of_left_ne_nil hne taken
    refine ⟨(image ++ taken).dropLast, (image ++ taken).getLast hne' :: rest, ?_,
      Bool.noConfusion, .one _ _ _ h⟩
    rw [← List.append_assoc, List.append_cons, List.dropLast_concat_getLast]
  | false =>
    obtain rfl := htaken rfl
    obtain ⟨d, ds, rfl⟩ := List.exists_cons_of_ne_nil hne
    refine ⟨[], _, rfl, fun _ ↦ rfl, .one d _ _ ?_⟩
    rcases hone with hbehind | hahead | htail
    · cases hbehind
    · exact matches_append_of_runAhead hahead ds h
    · change ds = [] at htail
      subst htail
      exact h

/-- No other image than that of the dotted capital I has a second character. -/
theorem tail_imageAt {c : Char} (hdotted : c ≠ dottedCapitalI) (before after : List Char) :
    (imageAt before after c).tail = [] := by
  obtain ⟨d, himage, -⟩ := exists_imageAt_eq before after hdotted
  rw [himage]
  rfl

/-- The wildcards for single characters are given no dotted capital I, or every one of them has a
star beside it. -/
def HasRoom (behind : Bool) (ts : List Token) (cs : List Char) : Prop :=
  onesBesideRuns behind ts = true ∨ cs.count dottedCapitalI ≤ (literals ts).count dottedCapitalI

namespace HasRoom

variable {behind : Bool} {ts : List Token} {cs : List Char}

theorem run {taken : List Char} (h : HasRoom behind (.run :: ts) (taken ++ cs)) :
    HasRoom true ts cs := by
  refine h.imp id fun hcount ↦ ?_
  rw [List.count_append] at hcount
  exact (Nat.le_add_left _ _).trans hcount

theorem literal {c : Char} (h : HasRoom behind (.literal c :: ts) (c :: cs)) :
    HasRoom false ts cs := by
  refine h.imp id fun hcount ↦ ?_
  have hliterals : Wildcard.literals (.literal c :: ts) = c :: Wildcard.literals ts := rfl
  rw [hliterals, List.count_cons, List.count_cons] at hcount
  omega

theorem one {c : Char} (h : HasRoom behind (.one :: ts) (c :: cs)) : HasRoom behind ts cs := by
  refine h.imp (fun hones ↦ (Bool.and_eq_true_iff.mp hones).2) fun hcount ↦ ?_
  rw [List.count_cons] at hcount
  exact (Nat.le_add_right _ _).trans hcount

/-- What a wildcard for a single character needs. -/
theorem beside_or_ne {c : Char} (h : HasRoom behind (.one :: ts) (c :: cs))
    (hmatches : Matches ts cs) : (behind = true ∨ runAhead ts = true) ∨ c ≠ dottedCapitalI := by
  refine h.imp (fun hones ↦ ?_) fun hcount hc ↦ ?_
  · exact Bool.or_eq_true_iff.mp (Bool.and_eq_true_iff.mp hones).1
  · have hle := (literals_sublist hmatches).count_le dottedCapitalI
    rw [hc, List.count_cons_self] at hcount
    exact absurd (hle.trans_lt hcount) (lt_irrefl _)

end HasRoom

/-- Pattern and text are passed side by side: `done` and `tb` have been passed, and the pieces and
the characters to come match in lowercase if they match at all. -/
theorem matchesBehind_chars {p : List Char} (hkeep : SigmasKeepEnds p) {done qs : List Piece}
    (hp : pieces p = done ++ qs) {tb cs : List Char}
    (hdone : Matches (done.map Piece.token) tb.reverse) (h : Matches (qs.map Piece.token) cs)
    {behind : Bool} (hroom : HasRoom behind (qs.map Piece.token) cs) :
    MatchesBehind behind (foldedPieces (spelling done).reverse qs) (chars tb cs) := by
  induction qs generalizing done tb cs behind with
  | nil =>
    cases h
    exact ⟨[], [], rfl, fun _ ↦ rfl, .nil⟩
  | cons q qs ih =>
    have hp' : pieces p = (done ++ [q]) ++ qs := by rw [hp, List.append_assoc]; rfl
    have hspelling : (spelling (done ++ [q])).reverse =
        q.spelling.reverse ++ (spelling done).reverse := by
      simp [spelling]
    obtain ⟨taken, rest, rfl, htakes, hrest⟩ := (matches_cons_iff _ _ _).mp h
    have hdone' : Matches ((done ++ [q]).map Piece.token) (taken.reverse ++ tb).reverse := by
      rw [List.reverse_append, List.reverse_reverse, List.map_append]
      exact hdone.append htakes.matches
    have hnext := fun behind (hroom' : HasRoom behind (qs.map Piece.token) rest) ↦
      ih hp' hdone' hrest hroom'
    rw [hspelling] at hnext
    rw [foldedPieces_cons]
    unfold Piece.folded
    rw [List.map_cons] at hroom
    cases htoken : q.token with
    | run =>
      rw [htoken] at hroom
      obtain ⟨front, hfront, -⟩ := exists_chars_append tb taken rest
      rw [hfront]
      exact (hnext true hroom.run).run behind front
    | one =>
      rw [htoken] at hroom htakes
      obtain ⟨c, rfl⟩ := htakes
      refine (hnext behind hroom.one).one (imageAt_ne_nil tb rest c) ?_
      rcases hroom.beside_or_ne hrest with (hbehind | hahead) | hdotted
      · exact Or.inl hbehind
      · exact Or.inr (Or.inl (runAhead_foldedPieces _ hahead))
      · exact Or.inr (Or.inr (tail_imageAt hdotted tb rest))
    | literal c =>
      rw [htoken] at hroom htakes
      obtain rfl := htakes
      have himage : imageAt (q.lead.reverse ++ (spelling done).reverse) (spelling qs) c =
          imageAt tb rest c := by
        refine imageAt_congr fun hc ↦ ?_
        rw [hc] at htoken
        rw [← List.reverse_append, ← hkeep done q qs hp htoken tb.reverse rest hdone hrest,
          List.reverse_reverse]
      dsimp only
      rw [himage]
      exact (hnext false hroom.literal).literals behind (imageAt tb rest c)

/-- What the pattern stands for, the folded pattern stands for in lowercase. -/
theorem matches_chars_of_matches {p cs : List Char} (hkeep : SigmasKeepEnds p)
    (hroom : HasRoom false (tokens p) cs) (h : Matches (tokens p) cs) :
    Matches (tokens (chars [] p)) (chars [] cs) := by
  rw [← map_token_pieces] at hroom h
  obtain ⟨taken, rest, hsplit, htaken, hmatches⟩ :=
    @matchesBehind_chars p hkeep [] (pieces p) rfl [] cs .nil h false hroom
  rw [tokens_chars, hsplit, htaken rfl]
  exact hmatches

/-! ### From the lowercase to the text -/

/-- Characters that wildcards take can be replaced, such that all sigmas and all dotted capital I's
are those of the pattern. -/
theorem exists_standIns {ts : List Token} {cs : List Char} (h : Matches ts cs) :
    ∃ ds, Matches ts ds ∧ List.Forall₂ Alike cs ds ∧
      ds.countP isSigma = (literals ts).countP isSigma ∧
      ds.count dottedCapitalI = (literals ts).count dottedCapitalI := by
  induction h with
  | nil => exact ⟨[], .nil, .nil, rfl, rfl⟩
  | literal c ts cs _ ih =>
    obtain ⟨ds, hmatches, halike, hsigmas, hdotted⟩ := ih
    have hliterals : literals (.literal c :: ts) = c :: literals ts := rfl
    refine ⟨c :: ds, .literal c ts ds hmatches, .cons (alike_refl c) halike, ?_, ?_⟩
    · rw [hliterals, List.countP_cons, List.countP_cons, hsigmas]
    · rw [hliterals, List.count_cons, List.count_cons, hdotted]
  | one c ts cs _ ih =>
    obtain ⟨ds, hmatches, halike, hsigmas, hdotted⟩ := ih
    refine ⟨standIn c :: ds, .one _ ts ds hmatches, .cons (alike_standIn c) halike, ?_, ?_⟩
    · exact (countP_standIn_cons c ds).trans hsigmas
    · exact (count_standIn_cons c ds).trans hdotted
  | stop ts cs _ ih =>
    obtain ⟨ds, hmatches, halike, hcounts⟩ := ih
    exact ⟨ds, .stop ts ds hmatches, halike, hcounts⟩
  | extend c ts cs _ ih =>
    obtain ⟨ds, hmatches, halike, hsigmas, hdotted⟩ := ih
    refine ⟨standIn c :: ds, .extend _ ts ds hmatches, .cons (alike_standIn c) halike, ?_, ?_⟩
    · exact (countP_standIn_cons c ds).trans hsigmas
    · exact (count_standIn_cons c ds).trans hdotted

/-- Where a list is found in another, an entry that satisfies a predicate is found in the place of
the one that has as many of them before it and behind it. -/
theorem eq_of_sublist_of_countP_eq {P : Char → Bool} {as bs cs ds : List Char} {x y : Char}
    (h : List.Sublist (as ++ x :: bs) (cs ++ y :: ds)) (hx : P x = true) (hy : P y = true)
    (hbefore : as.countP P = cs.countP P) (hafter : bs.countP P = ds.countP P) : x = y := by
  rw [List.countP_eq_length_filter, List.countP_eq_length_filter] at hbefore hafter
  have hfilter := h.filter P
  rw [List.filter_append, List.filter_append, List.filter_cons_of_pos hx,
    List.filter_cons_of_pos hy] at hfilter
  have hlength := hfilter.eq_of_length (by simp [hbefore, hafter])
  exact (List.cons.inj (List.append_inj hlength hbefore).2).1

/-- A sigma of the pattern is equal to the one of the text in its place, if neither has others than
those in their places. -/
theorem endsWord_eq_of_matches_chars {p : List Char} {front back : List Piece} {q : Piece}
    (hp : pieces p = front ++ q :: back) (hq : q.token = .literal capitalSigma)
    {before after : List Char}
    (hbefore : before.countP isSigma = (literals (front.map Piece.token)).countP isSigma)
    (hafter : after.countP isSigma = (literals (back.map Piece.token)).countP isSigma)
    (h : Matches (tokens (chars [] p)) (chars [] (before ++ capitalSigma :: after))) :
    endsWord before.reverse after =
      endsWord (spelling front ++ q.lead).reverse (spelling back) := by
  obtain ⟨ts, hts, htscount⟩ := exists_foldedPieces_append [] front (q :: back)
  obtain ⟨cs, hcs, hcscount⟩ := exists_chars_append [] before (capitalSigma :: after)
  have hfolded : q.folded ((spelling front).reverse ++ []) (spelling back) =
      [.literal (if endsWord (spelling front ++ q.lead).reverse (spelling back) then finalSigma
        else smallSigma)] := by
    unfold Piece.folded
    rw [hq]
    dsimp only
    rw [imageAt_capitalSigma, List.append_nil, ← List.reverse_append]
    rfl
  have hsmall (ends : Bool) : isSmallSigma (if ends then finalSigma else smallSigma) = true := by
    cases ends <;> decide
  rw [tokens_chars, hp, hts, hcs, foldedPieces_cons, chars_cons, hfolded, imageAt_capitalSigma,
    List.append_nil] at h
  have hsublist := literals_sublist h
  rw [literals_append, literals_append] at hsublist
  have hsame := eq_of_sublist_of_countP_eq hsublist (hsmall _) (hsmall _)
    (htscount.trans (hbefore.symm.trans hcscount.symm))
    ((countP_foldedPieces _ _).trans (hafter.symm.trans (countP_chars _ _).symm))
  rw [List.append_nil] at hsame
  have hinj : ∀ a b : Bool, (if a then finalSigma else smallSigma) =
      (if b then finalSigma else smallSigma) → b = a := by decide
  exact hinj _ _ hsame

/-- Where a sigma does not keep its end, there is a text that is lost in lowercase. -/
theorem exists_lost_in_lowercase {p : List Char} (hkeep : ¬ SigmasKeepEnds p) :
    ∃ cs, cs.count dottedCapitalI ≤ (literals (tokens p)).count dottedCapitalI ∧
      Matches (tokens p) cs ∧ ¬ Matches (tokens (chars [] p)) (chars [] cs) := by
  unfold SigmasKeepEnds at hkeep
  push Not at hkeep
  obtain ⟨front, q, back, hp, hq, before, after, hbefore, hafter, hne⟩ := hkeep
  obtain ⟨before', hbefore', hlike, hsigmas, hdotted⟩ := exists_standIns hbefore
  obtain ⟨after', hafter', hlike', hsigmas', hdotted'⟩ := exists_standIns hafter
  have hends : endsWord before'.reverse after' = endsWord before.reverse after := by
    unfold endsWord
    rw [meetsCased_congr (List.forall₂_reverse_iff.mpr hlike), meetsCased_congr hlike']
  have htokens : tokens p =
      front.map Piece.token ++ .literal capitalSigma :: back.map Piece.token := by
    rw [← map_token_pieces, hp, List.map_append, List.map_cons, hq]
  refine ⟨before' ++ capitalSigma :: after', ?_, ?_, fun h ↦ hne ?_⟩
  · have hliterals : literals (.literal capitalSigma :: back.map Piece.token) =
        capitalSigma :: literals (back.map Piece.token) := rfl
    rw [htokens, literals_append, hliterals, List.count_append, List.count_append,
      List.count_cons, List.count_cons, hdotted, hdotted']
  · rw [htokens]
    exact hbefore'.append (.literal _ _ _ hafter')
  · rw [← hends]
    exact endsWord_eq_of_matches_chars hp hq hsigmas hsigmas' h

end Wildcard

/-! ### Matchers that tell case apart and matchers that do not -/

open Wildcard

/-- A text that is accepted where case counts is accepted where it does not. -/
def Widens (o : Options) (c : Condition) (s : String) : Prop :=
  ({ o with caseSensitive := true } : Options).test (.text s) c = true →
    ({ o with caseSensitive := false } : Options).test (.text s) c = true

/-- The text has no dotted capital I but those that the pattern is written with. -/
def HasNoFurtherDottedI (p s : String) : Prop :=
  s.toList.count dottedCapitalI ≤ (literals (tokens p.toList)).count dottedCapitalI

/-- What is asked of a pattern and a text, with the scanner and the folding put aside. -/
theorem widens_iff (o : Options) {op : Operator} (hop : op = .bare ∨ op = .eq) (p s : String) :
    Widens o ⟨op, .text p⟩ s ↔ (Matches (tokens p.toList) s.toList →
      Matches (tokens (chars [] p.toList)) (chars [] s.toList)) := by
  unfold Widens
  rw [test_text_iff _ hop, test_text_iff _ hop]
  simp [Options.fold]

/-- Without regard to case a text accepts more, exactly if each capital sigma of its pattern ends a
word in the pattern where it ends one in the texts that the pattern stands for. This is for texts
whose dotted capital I's are those of the pattern, and for all texts if every wildcard for a single
character has a star beside it. -/
theorem widens_iff_sigmasKeepEnds (o : Options) (c : Condition)
    (hoperator : c.operator = .bare ∨ c.operator = .eq) (p : String)
    (hoperand : c.operand = .text p) :
    ((∀ s, HasNoFurtherDottedI p s → Widens o c s) ↔ SigmasKeepEnds p.toList) ∧
      (SigmasKeepEnds p.toList → onesBesideRuns false (tokens p.toList) = true →
        ∀ s, Widens o c s) := by
  obtain ⟨op, operand⟩ := c
  obtain rfl : operand = .text p := hoperand
  refine ⟨⟨fun hwidens ↦ ?_, fun hkeep s hdotted ↦ ?_⟩, fun hkeep hones s ↦ ?_⟩
  · by_contra hlost
    obtain ⟨cs, hdotted, hmatches, hfails⟩ := exists_lost_in_lowercase hlost
    have hwiden := (widens_iff o hoperator p (String.ofList cs)).mp
      (hwidens _ (by rwa [HasNoFurtherDottedI, String.toList_ofList]))
    rw [String.toList_ofList] at hwiden
    exact hfails (hwiden hmatches)
  · exact (widens_iff o hoperator p s).mpr (matches_chars_of_matches hkeep (Or.inr hdotted))
  · exact (widens_iff o hoperator p s).mpr (matches_chars_of_matches hkeep (Or.inl hones))

/-- The first sigma ends a word and the second does not, wherever this pattern is found. -/
theorem widens_sigmas_between_letters :
    Condition.openEnd (Options.parse "*ΑΣ ~?ΟΣΑ*?") = ⟨.bare, .text "*ΑΣ ~?ΟΣΑ*?*"⟩ ∧
      SigmasKeepEnds "*ΑΣ ~?ΟΣΑ*?*".toList ∧
      ∀ s, Widens {} (Condition.openEnd (Options.parse "*ΑΣ ~?ΟΣΑ*?")) s := by
  have hparse : Condition.openEnd (Options.parse "*ΑΣ ~?ΟΣΑ*?") =
      ⟨.bare, .text "*ΑΣ ~?ΟΣΑ*?*"⟩ := by rfl
  have hkeep : SigmasKeepEnds "*ΑΣ ~?ΟΣΑ*?*".toList := by decide +kernel
  refine ⟨hparse, hkeep, ?_⟩
  rw [hparse]
  exact (widens_iff_sigmasKeepEnds {} ⟨.bare, .text "*ΑΣ ~?ΟΣΑ*?*"⟩ (Or.inl rfl) _ rfl).2 hkeep
    (by decide +kernel)

/-- The sigma ends a word in the pattern and none in the text; and a dotted capital I has no room
in the place of one character. -/
theorem not_widens_final_sigma :
    ¬ Widens {} (Condition.openEnd (Options.parse "ΑΣ")) "ΑΣΑ" ∧
      ¬ Widens {} (Options.parse "=?") "İ" := by
  have hparse : Condition.openEnd (Options.parse "ΑΣ") = ⟨.bare, .text "ΑΣ*"⟩ := by rfl
  have hparse' : Options.parse "=?" = ⟨.eq, .text "?"⟩ := by rfl
  rw [hparse, hparse', widens_iff _ (Or.inl rfl), widens_iff _ (Or.inr rfl)]
  constructor
  · intro hwidens
    have hpattern : tokens (chars [] "ΑΣ*".toList) = [.literal 'α', .literal 'ς', .run] := by
      decide +kernel
    have htext : chars [] "ΑΣΑ".toList = ['α', 'σ', 'α'] := by decide +kernel
    have hlost := hwidens (.literal 'Α' _ _ (.literal 'Σ' _ _
      (.extend 'Α' _ _ (.stop _ _ .nil))))
    rw [hpattern, htext] at hlost
    simp at hlost
  · intro hwidens
    have htext : chars [] "İ".toList = ['i', dotAbove] := by decide +kernel
    have hlost := hwidens (.one 'İ' _ _ .nil)
    rw [htext] at hlost
    cases hlost with
    | one _ _ _ hrest => cases hrest

end Worksheet.Criteria
