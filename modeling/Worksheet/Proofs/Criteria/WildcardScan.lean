import Worksheet.Criteria.Wildcard

/-!
Scans decide what a wildcard pattern stands for.

A scan that fails goes back to the last run only. No run before it has to be tried again: a run
takes any characters, so the first place that is reached behind the earlier tokens leaves the last
run the most text to choose from (`Reads.matches_behindRun_iff`). Hence no step changes whether a
scan can succeed (`keeps_step`), and the verdict at the end of the steps is whether it could at the
start (`verdict_eq_true_iff`).
-/

set_option autoImplicit false
set_option relaxedAutoImplicit false

namespace Worksheet.Criteria.Wildcard

/-! ### What the tokens of a pattern stand for -/

@[simp] theorem matches_nil_iff (cs : List Char) : Matches [] cs ↔ cs = [] := by
  constructor
  · intro h
    cases h
    rfl
  · rintro rfl
    exact .nil

@[simp] theorem matches_literal_cons_iff (d : Char) (ts : List Token) (c : Char) (cs : List Char) :
    Matches (.literal d :: ts) (c :: cs) ↔ d = c ∧ Matches ts cs := by
  constructor
  · intro h
    cases h with
    | literal _ _ _ h => exact ⟨rfl, h⟩
  · rintro ⟨rfl, h⟩
    exact .literal d ts cs h

@[simp] theorem not_matches_literal_nil (d : Char) (ts : List Token) :
    ¬ Matches (.literal d :: ts) [] := by
  intro h
  cases h

@[simp] theorem matches_one_cons_iff (ts : List Token) (c : Char) (cs : List Char) :
    Matches (.one :: ts) (c :: cs) ↔ Matches ts cs := by
  constructor
  · intro h
    cases h with
    | one _ _ _ h => exact h
  · exact .one c ts cs

@[simp] theorem not_matches_one_nil (ts : List Token) : ¬ Matches (.one :: ts) [] := by
  intro h
  cases h

@[simp] theorem matches_run_nil_iff (ts : List Token) :
    Matches (.run :: ts) [] ↔ Matches ts [] := by
  constructor
  · intro h
    cases h with
    | stop _ _ h => exact h
  · exact .stop ts []

/-- The run stops here, or takes one more character. -/
theorem matches_run_cons_iff (ts : List Token) (c : Char) (cs : List Char) :
    Matches (.run :: ts) (c :: cs) ↔ Matches ts (c :: cs) ∨ Matches (.run :: ts) cs := by
  constructor
  · intro h
    cases h with
    | stop _ _ h => exact Or.inl h
    | extend _ _ _ h => exact Or.inr h
  · rintro (h | h)
    · exact .stop ts (c :: cs) h
    · exact .extend c ts cs h

/-- A run leaves any end of the text to the tokens behind it. -/
theorem matches_run_iff (ts : List Token) (cs : List Char) :
    Matches (.run :: ts) cs ↔ ∃ rest, rest <:+ cs ∧ Matches ts rest := by
  induction cs with
  | nil => simp
  | cons c cs ih =>
    rw [matches_run_cons_iff, ih]
    simp only [List.suffix_cons_iff, or_and_right, exists_or, exists_eq_left]

theorem matches_run_run_iff (ts : List Token) (cs : List Char) :
    Matches (.run :: .run :: ts) cs ↔ Matches (.run :: ts) cs := by
  rw [matches_run_iff]
  constructor
  · rintro ⟨rest, hrest, h⟩
    obtain ⟨last, hlast, h⟩ := (matches_run_iff ts rest).mp h
    exact (matches_run_iff ts cs).mpr ⟨last, hlast.trans hrest, h⟩
  · intro h
    exact ⟨cs, List.suffix_rfl, h⟩

/-- The characters that one token may take from the text. -/
def Token.Takes : Token → List Char → Prop
  | .run, _ => True
  | .one, taken => ∃ c, taken = [c]
  | .literal d, taken => taken = [d]

/-- The first token takes characters from the front, and the others stand for what is left. -/
theorem matches_cons_iff (t : Token) (ts : List Token) (cs : List Char) :
    Matches (t :: ts) cs ↔ ∃ taken rest, cs = taken ++ rest ∧ t.Takes taken ∧ Matches ts rest := by
  cases t with
  | run =>
    rw [matches_run_iff]
    constructor
    · rintro ⟨rest, ⟨taken, rfl⟩, h⟩
      exact ⟨taken, rest, rfl, trivial, h⟩
    · rintro ⟨taken, rest, rfl, -, h⟩
      exact ⟨rest, List.suffix_append taken rest, h⟩
  | one =>
    constructor
    · intro h
      cases h with
      | one c _ cs h => exact ⟨[c], cs, rfl, ⟨c, rfl⟩, h⟩
    · rintro ⟨_, rest, rfl, ⟨c, rfl⟩, h⟩
      exact .one c ts rest h
  | literal d =>
    constructor
    · intro h
      cases h with
      | literal _ _ cs h => exact ⟨[d], cs, rfl, rfl, h⟩
    · rintro ⟨_, rest, rfl, rfl, h⟩
      exact .literal d ts rest h

theorem matches_collapse_iff (ts : List Token) (cs : List Char) :
    Matches (collapse ts) cs ↔ Matches ts cs := by
  induction ts generalizing cs with
  | nil => rfl
  | cons t ts ih =>
    unfold collapse
    split
    · next h =>
      obtain ⟨rfl, hhead⟩ := h
      obtain ⟨us, rfl⟩ := List.head?_eq_some_iff.mp hhead
      rw [ih, matches_run_run_iff]
    · simp only [matches_cons_iff, ih]

/-! ### From one run to the next -/

def Position.Matches (p : Position) : Prop := Wildcard.Matches p.pattern p.text

/-- The second position is reached from the first one by tokens that stand for one character. -/
inductive Reads (p : Position) : Position → Prop where
  | refl : Reads p p
  | one (ts : List Token) (c : Char) (cs : List Char) (h : Reads p ⟨.one :: ts, c :: cs⟩) :
      Reads p ⟨ts, cs⟩
  | literal (ts : List Token) (c : Char) (cs : List Char)
      (h : Reads p ⟨.literal c :: ts, c :: cs⟩) : Reads p ⟨ts, cs⟩

private theorem suffix_of_cons_suffix_cons {a b : Char} {as bs : List Char}
    (h : a :: as <:+ b :: bs) : as <:+ bs := by
  rcases List.suffix_cons_iff.mp h with heq | hsuffix
  · cases heq
    exact List.suffix_rfl
  · exact (List.suffix_cons a as).trans hsuffix

namespace Reads

variable {p q : Position}

theorem matches_iff (h : Reads p q) : p.Matches ↔ q.Matches := by
  induction h with
  | refl => rfl
  | one ts c cs _ ih => rw [ih, Position.Matches, matches_one_cons_iff]; rfl
  | literal ts c cs _ ih =>
    rw [ih, Position.Matches, matches_literal_cons_iff, eq_self, true_and]
    rfl

/-- Where the pattern fits an end of the text, what is left of it fits an end of what is left. -/
theorem exists_suffix (h : Reads p q) {rest : List Char} (hrest : rest <:+ p.text)
    (hmatches : Wildcard.Matches p.pattern rest) :
    ∃ left, left <:+ q.text ∧ Wildcard.Matches q.pattern left := by
  induction h with
  | refl => exact ⟨rest, hrest, hmatches⟩
  | one ts c cs _ ih =>
    obtain ⟨left, hleft, h⟩ := ih
    cases h with
    | one d _ left h => exact ⟨left, suffix_of_cons_suffix_cons hleft, h⟩
  | literal ts c cs _ ih =>
    obtain ⟨left, hleft, h⟩ := ih
    cases h with
    | literal _ _ left h => exact ⟨left, suffix_of_cons_suffix_cons hleft, h⟩

/-- With a run ahead, the run behind has nothing to gain from more characters. -/
theorem matches_behindRun_iff {ts : List Token} {cs : List Char}
    (h : Reads p ⟨.run :: ts, cs⟩) :
    Wildcard.Matches (.run :: p.pattern) p.text ↔ Wildcard.Matches (.run :: ts) cs := by
  constructor
  · intro hmatches
    obtain ⟨rest, hrest, hmatches⟩ := (matches_run_iff _ _).mp hmatches
    obtain ⟨left, hleft, hmatches⟩ := h.exists_suffix hrest hmatches
    have hnested : Wildcard.Matches (.run :: .run :: ts) cs :=
      (matches_run_iff _ _).mpr ⟨left, hleft, hmatches⟩
    exact (matches_run_run_iff ts cs).mp hnested
  · intro hmatches
    exact .stop _ _ (h.matches_iff.mpr hmatches)

end Reads

/-! ### From one step to the next -/

namespace Scan

/-- Only tokens that stand for one character were read since the last run. -/
def Valid (s : Scan) : Prop := ∀ p ∈ s.resume, Reads p s.toPosition

/-- The scan can still succeed. Once a run is passed, that run may take what it likes. -/
def CanSucceed (s : Scan) : Prop :=
  match s.resume with
  | none => s.toPosition.Matches
  | some p => Wildcard.Matches (.run :: p.pattern) p.text

/-- An outcome says of a scan what is true of it. -/
def Outcome.Keeps (s : Scan) : Outcome → Prop
  | .done matched => matched = true ↔ s.CanSucceed
  | .next t => t.Valid ∧ (t.CanSucceed ↔ s.CanSucceed)

theorem keeps_retry {p : Position} {resume : Option Position} (hvalid : Valid ⟨p, resume⟩)
    (hfails : ¬ p.Matches) : (retry resume).Keeps ⟨p, resume⟩ := by
  cases resume with
  | none => exact iff_of_false Bool.false_ne_true hfails
  | some q =>
    have hqfails : ¬ q.Matches := fun h ↦ hfails ((hvalid q rfl).matches_iff.mp h)
    obtain ⟨ts, cs⟩ := q
    cases cs with
    | nil =>
      refine iff_of_false Bool.false_ne_true fun h ↦ hqfails ?_
      exact (matches_run_nil_iff ts).mp h
    | cons c cs =>
      refine ⟨fun q hq ↦ ?_, ?_⟩
      · cases hq
        exact .refl
      · exact ((matches_run_cons_iff ts c cs).trans (or_iff_right hqfails)).symm

theorem keeps_behindRun {ts : List Token} {cs : List Char} {resume : Option Position}
    (hvalid : Valid ⟨⟨.run :: ts, cs⟩, resume⟩) :
    (Outcome.next (behindRun ⟨ts, cs⟩)).Keeps ⟨⟨.run :: ts, cs⟩, resume⟩ := by
  refine ⟨fun q hq ↦ ?_, ?_⟩
  · cases hq
    exact .refl
  · cases resume with
    | none => rfl
    | some q => exact (hvalid q rfl).matches_behindRun_iff.symm

theorem keeps_read {p q : Position} {resume : Option Position} (hvalid : Valid ⟨p, resume⟩)
    (hread : ∀ origin, Reads origin p → Reads origin q) :
    (Outcome.next ⟨q, resume⟩).Keeps ⟨p, resume⟩ := by
  refine ⟨fun origin horigin ↦ hread origin (hvalid origin horigin), ?_⟩
  cases resume with
  | none => exact (hread p .refl).matches_iff.symm
  | some origin => rfl

/-- No step changes whether a scan can succeed. -/
theorem keeps_step {s : Scan} (hvalid : s.Valid) : s.step.Keeps s := by
  unfold step
  split
  · next resume =>
    refine iff_of_true rfl ?_
    cases resume with
    | none => exact .nil
    | some q => exact .stop _ _ ((hvalid q rfl).matches_iff.mpr .nil)
  · exact keeps_behindRun hvalid
  · next ts c cs resume => exact keeps_read hvalid fun _ h ↦ h.one ts c cs
  · next d ts c cs resume =>
    split
    · next heq =>
      subst heq
      exact keeps_read hvalid fun _ h ↦ h.literal ts d cs
    · next hne =>
      refine keeps_retry hvalid fun h ↦ hne ?_
      exact ((matches_literal_cons_iff d ts c cs).mp h).1
  · next p resume hnil hrun hone hliteral =>
    refine keeps_retry hvalid fun h ↦ ?_
    obtain ⟨ts, cs⟩ := p
    cases h with
    | nil => exact hnil rfl
    | literal c ts cs => exact hliteral c ts c cs rfl
    | one c ts cs => exact hone ts c cs rfl
    | stop ts cs => exact hrun ts cs rfl
    | extend c ts cs => exact hrun ts (c :: cs) rfl

/-- The steps from a scan come to an end, with this verdict. -/
inductive Ends : Scan → Bool → Prop where
  | done (s : Scan) (matched : Bool) (h : s.step = .done matched) : Ends s matched
  | next (s t : Scan) (matched : Bool) (h : s.step = .next t) (hend : Ends t matched) :
      Ends s matched

theorem ends_verdict (s : Scan) : s.Ends s.verdict := by
  fun_induction verdict s with
  | case1 s matched h => exact .done s matched h
  | case2 s t h ih => exact .next s t _ h ih

/-- The verdict of a scan is whether it could succeed at its start. -/
theorem verdict_eq_true_iff (s : Scan) (hvalid : s.Valid) :
    s.verdict = true ↔ s.CanSucceed := by
  fun_induction verdict s with
  | case1 s matched h =>
    have hkeeps := keeps_step hvalid
    rwa [h] at hkeeps
  | case2 s t h ih =>
    have hkeeps := keeps_step hvalid
    rw [h] at hkeeps
    exact (ih hkeeps.1).trans hkeeps.2

end Scan

theorem accepts_iff_matches (ts : List Token) (cs : List Char) :
    accepts ts cs = true ↔ Matches ts cs := by
  have hvalid : (Scan.start (collapse ts) cs).Valid := fun _ h ↦ absurd h (Option.not_mem_none _)
  exact (Scan.verdict_eq_true_iff _ hvalid).trans (matches_collapse_iff ts cs)

/-- Every scan ends, and its verdict is true exactly of the texts that the pattern stands for. -/
theorem test_decides_matches (pattern text : String) :
    (Scan.start (collapse (tokens pattern.toList)) text.toList).Ends (test pattern text) ∧
      (test pattern text = true ↔ Matches (tokens pattern.toList) text.toList) :=
  ⟨Scan.ends_verdict _, accepts_iff_matches _ _⟩

end Worksheet.Criteria.Wildcard
