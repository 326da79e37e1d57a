/-!
String literals of JSON. A literal is read as a list of pieces, characters and halves of surrogate
pairs, and denotes a text when the halves pair up. It is written with the shortest escape of the
quote, the backslash and the controls, and with every other character as it is.
-/

set_option autoImplicit false
set_option relaxedAutoImplicit false

namespace Worksheet.Json.Literal

inductive Piece where
  | char (c : Char)
  | half (unit : Nat)
  deriving DecidableEq, Repr

def isHigh (unit : Nat) : Bool := 0xD800 ≤ unit && unit < 0xDC00

def isLow (unit : Nat) : Bool := 0xDC00 ≤ unit && unit < 0xE000

/-- The characters of the pieces; none if a half has no partner. -/
def join : List Piece → Option (List Char)
  | [] => some []
  | .char c :: rest => (join rest).map (c :: ·)
  | .half high :: .half low :: rest =>
    if isHigh high && isLow low then
      (join rest).map (Char.ofNat (0x10000 + (high - 0xD800) * 0x400 + (low - 0xDC00)) :: ·)
    else none
  | .half _ :: _ => none

def hexValue? (c : Char) : Option Nat :=
  if '0' ≤ c ∧ c ≤ '9' then some (c.toNat - '0'.toNat)
  else if 'a' ≤ c ∧ c ≤ 'f' then some (c.toNat - 'a'.toNat + 10)
  else if 'A' ≤ c ∧ c ≤ 'F' then some (c.toNat - 'A'.toNat + 10)
  else none

/-- The unit of four hexadecimal digits. -/
def unit? (a b c d : Char) : Option Nat :=
  [a, b, c, d].foldlM (fun n digit ↦ (hexValue? digit).map (16 * n + ·)) 0

def pieceOfUnit (unit : Nat) : Piece :=
  if isHigh unit || isLow unit then .half unit else .char (Char.ofNat unit)

/-- The escapes of one letter. -/
def escapes : List (Char × Char) :=
  [('"', '"'), ('\\', '\\'), ('/', '/'), ('b', '\x08'), ('f', '\x0c'), ('n', '\n'), ('r', '\r'),
    ('t', '\t')]

/-- The pieces up to the closing quote, and what follows it. -/
def body : List Char → Option (List Piece × List Char)
  | '"' :: rest => some ([], rest)
  | '\\' :: 'u' :: a :: b :: c :: d :: rest => do
    let unit ← unit? a b c d
    let (pieces, rest) ← body rest
    return (pieceOfUnit unit :: pieces, rest)
  | '\\' :: letter :: rest => do
    let c ← escapes.lookup letter
    let (pieces, rest) ← body rest
    return (.char c :: pieces, rest)
  | c :: rest =>
    if c = '\\' ∨ c.toNat < 0x20 then none
    else (body rest).map fun (pieces, rest) ↦ (.char c :: pieces, rest)
  | [] => none

/-- A control without a letter is written as a unit of four lower-case digits. -/
def escape (c : Char) : List Char :=
  match c with
  | '"' => ['\\', '"']
  | '\\' => ['\\', '\\']
  | '\x08' => ['\\', 'b']
  | '\x0c' => ['\\', 'f']
  | '\n' => ['\\', 'n']
  | '\r' => ['\\', 'r']
  | '\t' => ['\\', 't']
  | c =>
    if c.toNat < 0x20 then
      ['\\', 'u', '0', '0', Nat.digitChar (c.toNat / 16), Nat.digitChar (c.toNat % 16)]
    else [c]

def write (s : String) : List Char := '"' :: s.toList.flatMap escape ++ ['"']

theorem length_body (cs : List Char) (pieces : List Piece) (rest : List Char)
    (h : body cs = some (pieces, rest)) : rest.length < cs.length := by
  fun_induction body cs generalizing pieces rest with
  | case1 rest' => cases h; simp
  | case2 a b c d rest' ih =>
    simp only [Option.bind_eq_bind, Option.bind_eq_some_iff] at h
    obtain ⟨unit, _, ⟨ps, r⟩, hb, he⟩ := h
    cases he
    have := ih _ _ hb
    simp only [List.length_cons]
    omega
  | case3 letter rest' _ ih =>
    simp only [Option.bind_eq_bind, Option.bind_eq_some_iff] at h
    obtain ⟨c, _, ⟨ps, r⟩, hb, he⟩ := h
    cases he
    have := ih _ _ hb
    simp only [List.length_cons]
    omega
  | case4 c rest' _ _ _ hc => cases h
  | case5 c rest' _ _ _ hc ih =>
    simp only [Option.map_eq_some_iff] at h
    obtain ⟨⟨ps, r⟩, hb, he⟩ := h
    cases he
    have := ih _ _ hb
    simp only [List.length_cons]
    omega
  | case6 => cases h

end Worksheet.Json.Literal
