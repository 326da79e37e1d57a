import Worksheet.Json.Literal

/-!
Tokens of a JSON text. A number is kept as written; a string is kept as the text that it denotes,
if any. `lex` fails at a character that begins no token.
-/

set_option autoImplicit false
set_option relaxedAutoImplicit false

namespace Worksheet.Json

inductive Token where
  | openArray
  | closeArray
  | openObject
  | closeObject
  | comma
  | colon
  | null
  | bool (b : Bool)
  | number (lexeme : List Char)
  | string (s : Option String)
  deriving DecidableEq, Repr

namespace Lexer

def isBlank (c : Char) : Bool := c == ' ' || c == '\n' || c == '\r' || c == '\t'

def isDigit (c : Char) : Bool := '0' ≤ c && c ≤ '9'

def digits (cs : List Char) : List Char × List Char := (cs.takeWhile isDigit, cs.dropWhile isDigit)

def sign : List Char → List Char × List Char
  | '-' :: rest => (['-'], rest)
  | cs => ([], cs)

/-- A zero alone, or digits that do not begin with zero. -/
def whole? : List Char → Option (List Char × List Char)
  | '0' :: rest => some (['0'], rest)
  | c :: rest => if isDigit c then some (digits (c :: rest)) else none
  | [] => none

/-- Digits must follow a point. -/
def fraction? : List Char → Option (List Char × List Char)
  | '.' :: rest =>
    let (ds, rest) := digits rest
    if ds.isEmpty then none else some ('.' :: ds, rest)
  | cs => some ([], cs)

def exponentSign : List Char → List Char × List Char
  | '+' :: rest => (['+'], rest)
  | '-' :: rest => (['-'], rest)
  | cs => ([], cs)

/-- Digits must follow an exponent mark and its sign. -/
def exponent? : List Char → Option (List Char × List Char)
  | c :: rest =>
    if c = 'e' ∨ c = 'E' then
      let (mark, rest) := exponentSign rest
      let (ds, rest) := digits rest
      if ds.isEmpty then none else some (c :: mark ++ ds, rest)
    else some ([], c :: rest)
  | [] => some ([], [])

/-- The longest number at the start. -/
def number? (cs : List Char) : Option (List Char × List Char) := do
  let (minus, rest) := sign cs
  let (whole, rest) ← whole? rest
  let (fraction, rest) ← fraction? rest
  let (exponent, rest) ← exponent? rest
  return (minus ++ whole ++ fraction ++ exponent, rest)

/-- The rest after a word. -/
def after? : (word cs : List Char) → Option (List Char)
  | [], cs => some cs
  | w :: ws, c :: cs => if w = c then after? ws cs else none
  | _ :: _, [] => none

/-- The token that begins with `c`, and what follows it. -/
def next? (c : Char) (rest : List Char) : Option (Token × List Char) :=
  match c with
  | '[' => some (.openArray, rest)
  | ']' => some (.closeArray, rest)
  | '\x7b' => some (.openObject, rest)
  | '\x7d' => some (.closeObject, rest)
  | ',' => some (.comma, rest)
  | ':' => some (.colon, rest)
  | 'n' => (after? ['u', 'l', 'l'] rest).map fun rest ↦ (.null, rest)
  | 't' => (after? ['r', 'u', 'e'] rest).map fun rest ↦ (.bool true, rest)
  | 'f' => (after? ['a', 'l', 's', 'e'] rest).map fun rest ↦ (.bool false, rest)
  | '"' =>
    (Literal.body rest).map fun (pieces, rest) ↦
      (.string ((Literal.join pieces).map String.ofList), rest)
  | c => (number? (c :: rest)).map fun (lexeme, rest) ↦ (.number lexeme, rest)

theorem length_digits (cs : List Char) : (digits cs).2.length ≤ cs.length := by
  have h := congrArg List.length (List.takeWhile_append_dropWhile (p := isDigit) (l := cs))
  simp only [List.length_append] at h
  simp only [digits]
  omega

theorem length_sign (cs : List Char) : (sign cs).2.length ≤ cs.length := by
  unfold sign
  split <;> simp

theorem length_exponentSign (cs : List Char) : (exponentSign cs).2.length ≤ cs.length := by
  unfold exponentSign
  split <;> simp

theorem length_whole? (cs : List Char) (p : List Char × List Char) (h : whole? cs = some p) :
    p.2.length < cs.length := by
  unfold whole? at h
  split at h
  · cases h; simp
  · next c rest _ =>
    split at h
    · next hc =>
      cases h
      have := length_digits rest
      simp only [digits] at this
      simp only [digits, List.dropWhile_cons, hc, if_true, List.length_cons]
      omega
    · cases h
  · cases h

theorem length_fraction? (cs : List Char) (p : List Char × List Char)
    (h : fraction? cs = some p) : p.2.length ≤ cs.length := by
  unfold fraction? at h
  split at h
  · next rest =>
    simp only at h
    split at h
    · cases h
    · cases h
      have := length_digits rest
      simp only [List.length_cons]
      omega
  · cases h; simp

theorem length_exponent? (cs : List Char) (p : List Char × List Char)
    (h : exponent? cs = some p) : p.2.length ≤ cs.length := by
  unfold exponent? at h
  split at h
  · next c rest =>
    split at h
    · simp only at h
      split at h
      · cases h
      · cases h
        have h₁ := length_digits (exponentSign rest).2
        have h₂ := length_exponentSign rest
        simp only [List.length_cons]
        omega
    · cases h; simp
  · cases h; simp

theorem length_number? (cs : List Char) (p : List Char × List Char) (h : number? cs = some p) :
    p.2.length < cs.length := by
  simp only [number?, Option.bind_eq_bind, Option.bind_eq_some_iff] at h
  obtain ⟨w, hw, f, hf, e, he, hp⟩ := h
  cases hp
  have h₁ := length_sign cs
  have h₂ := length_whole? _ _ hw
  have h₃ := length_fraction? _ _ hf
  have h₄ := length_exponent? _ _ he
  simp only
  omega

theorem length_after? (word cs rest : List Char) (h : after? word cs = some rest) :
    rest.length ≤ cs.length := by
  induction word generalizing cs with
  | nil => cases h; simp
  | cons w ws ih =>
    cases cs with
    | nil => cases h
    | cons c cs =>
      simp only [after?] at h
      split at h
      · have := ih cs h
        simp only [List.length_cons]
        omega
      · cases h

theorem length_next? (c : Char) (rest : List Char) (p : Token × List Char)
    (h : next? c rest = some p) : p.2.length ≤ rest.length := by
  unfold next? at h
  split at h
  case h_7 | h_8 | h_9 =>
    simp only [Option.map_eq_some_iff] at h
    obtain ⟨r, hr, he⟩ := h
    cases he
    exact length_after? _ _ _ hr
  case h_10 =>
    simp only [Option.map_eq_some_iff] at h
    obtain ⟨⟨ps, r⟩, hr, he⟩ := h
    cases he
    exact Nat.le_of_lt (Literal.length_body _ _ _ hr)
  case h_11 =>
    simp only [Option.map_eq_some_iff] at h
    obtain ⟨⟨ps, r⟩, hr, he⟩ := h
    cases he
    have := length_number? _ _ hr
    simp only [List.length_cons] at this
    simp only
    omega
  all_goals cases h; simp

end Lexer

/-- The tokens of a text, blanks between them aside. -/
def lex (cs : List Char) : Option (List Token) :=
  match cs with
  | [] => some []
  | c :: rest =>
    if Lexer.isBlank c then lex rest
    else
      match _found : Lexer.next? c rest with
      | none => none
      | some (t, rest') => (lex rest').map (t :: ·)
termination_by cs.length
decreasing_by
  · simp
  · have := Lexer.length_next? _ _ _ _found
    simp only [List.length_cons]
    simp only at this
    omega

end Worksheet.Json
