/-!
Wildcard patterns: `*` stands for any run of characters, `?` for any one character, and `~` takes
away the meaning of the character after it. A pattern matches a whole text.

`Matches` says which texts a pattern stands for. A `Scan` decides it from left to right. Where the
pattern fails, the scan goes back to the last run alone, lets it take one more character and tries
the pattern behind it again. Its `rank` falls with every step, so that a scan ends.
-/

set_option autoImplicit false
set_option relaxedAutoImplicit false

namespace Worksheet.Criteria.Wildcard

inductive Token where
  | run
  | one
  | literal (c : Char)
  deriving DecidableEq, Repr

/-- A tilde at the end stands for itself. -/
def tokens : List Char → List Token
  | [] => []
  | ['~'] => [.literal '~']
  | '~' :: c :: rest => .literal c :: tokens rest
  | '*' :: rest => .run :: tokens rest
  | '?' :: rest => .one :: tokens rest
  | c :: rest => .literal c :: tokens rest

inductive Matches : List Token → List Char → Prop where
  | nil : Matches [] []
  | literal (c : Char) (ts : List Token) (cs : List Char) (h : Matches ts cs) :
      Matches (.literal c :: ts) (c :: cs)
  | one (c : Char) (ts : List Token) (cs : List Char) (h : Matches ts cs) :
      Matches (.one :: ts) (c :: cs)
  | stop (ts : List Token) (cs : List Char) (h : Matches ts cs) : Matches (.run :: ts) cs
  | extend (c : Char) (ts : List Token) (cs : List Char) (h : Matches (.run :: ts) cs) :
      Matches (.run :: ts) (c :: cs)

/-- Of runs side by side one is kept. -/
def collapse : List Token → List Token
  | [] => []
  | t :: ts => if t = .run ∧ ts.head? = some .run then collapse ts else t :: collapse ts

/-- What is left of a pattern and of a text. -/
structure Position where
  pattern : List Token
  text : List Char

structure Scan extends Position where
  /-- Where the pattern behind the last run was last tried. -/
  resume : Option Position

namespace Scan

inductive Outcome where
  | done (matched : Bool)
  | next (s : Scan)

def start (pattern : List Token) (text : List Char) : Scan := ⟨⟨pattern, text⟩, none⟩

/-- The pattern behind a run is tried from here on. -/
def behindRun (p : Position) : Scan := ⟨p, some p⟩

/-- The last run takes one more character, if one is left for it. -/
def retry : Option Position → Outcome
  | some ⟨ts, _ :: cs⟩ => .next (behindRun ⟨ts, cs⟩)
  | _ => .done false

def step : Scan → Outcome
  | ⟨⟨[], []⟩, _⟩ => .done true
  | ⟨⟨.run :: ts, cs⟩, _⟩ => .next (behindRun ⟨ts, cs⟩)
  | ⟨⟨.one :: ts, _ :: cs⟩, resume⟩ => .next ⟨⟨ts, cs⟩, resume⟩
  | ⟨⟨.literal d :: ts, c :: cs⟩, resume⟩ =>
    if d = c then .next ⟨⟨ts, cs⟩, resume⟩ else retry resume
  | ⟨_, resume⟩ => retry resume

/-! ### A scan ends -/

/-- Runs still to pass, then characters that the last run may still take, then tokens to read. -/
def rank (s : Scan) : Nat × Nat × Nat :=
  (max (s.pattern.count .run) (s.resume.elim 0 (·.pattern.count .run)),
    s.resume.elim 0 (·.text.length), s.pattern.length)

def Below (s t : Scan) : Prop :=
  Prod.Lex (· < ·) (Prod.Lex (· < ·) (· < ·)) s.rank t.rank

theorem below_of_retry {p : Position} {resume : Option Position} {t : Scan}
    (h : retry resume = .next t) : t.Below ⟨p, resume⟩ := by
  unfold retry at h
  split at h
  · cases h
    simp only [Below, Prod.lex_def, rank, behindRun, Option.elim, List.length_cons]
    omega
  · cases h

theorem below_of_step {s t : Scan} (h : s.step = .next t) : t.Below s := by
  unfold step at h
  split at h
  · cases h
  · cases h
    simp only [Below, Prod.lex_def, rank, behindRun, Option.elim, List.count_cons_self]
    omega
  · cases h
    simp [Below, Prod.lex_def, rank]
  · split at h
    · cases h
      simp [Below, Prod.lex_def, rank]
    · exact below_of_retry h
  · exact below_of_retry h

def verdict (s : Scan) : Bool :=
  match _h : s.step with
  | .done matched => matched
  | .next t => t.verdict
termination_by s.rank
decreasing_by exact below_of_step ‹_›

end Scan

def accepts (ts : List Token) (cs : List Char) : Bool := (Scan.start (collapse ts) cs).verdict

/-- Whether the pattern matches the text. -/
def test (pattern text : String) : Bool := accepts (tokens pattern.toList) text.toList

end Worksheet.Criteria.Wildcard
