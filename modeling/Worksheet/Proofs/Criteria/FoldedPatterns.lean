import Worksheet.Proofs.Criteria.OpenEnds
import Worksheet.Proofs.Text.LowercaseImages

/-!
Wildcard patterns in lowercase.

A pattern is taken apart into pieces (`pieces`), each with its token and the characters it is
written with. Lowercase changes the literals of a pattern and nothing else: the tokens of the
folded pattern are the wildcards of the pattern, and for each literal the images of its character
where it stands in the pattern (`tokens_chars`).
-/

set_option autoImplicit false
set_option relaxedAutoImplicit false

namespace Worksheet.Criteria.Wildcard

open Text.Lowercase

/-! ### Pieces of a pattern -/

/-- The character that stands for a token. -/
def Token.char : Token → Char
  | .run => '*'
  | .one => '?'
  | .literal c => c

/-- A token, and whether a tilde is written before it. -/
structure Piece where
  escaped : Bool
  token : Token
  deriving DecidableEq, Repr

namespace Piece

def lead (q : Piece) : List Char := if q.escaped then ['~'] else []

def spelling (q : Piece) : List Char := q.lead ++ [q.token.char]

end Piece

/-- The pieces of a pattern, token by token. -/
def pieces : List Char → List Piece
  | [] => []
  | ['~'] => [⟨false, .literal '~'⟩]
  | '~' :: c :: rest => ⟨true, .literal c⟩ :: pieces rest
  | '*' :: rest => ⟨false, .run⟩ :: pieces rest
  | '?' :: rest => ⟨false, .one⟩ :: pieces rest
  | c :: rest => ⟨false, .literal c⟩ :: pieces rest

def spelling (qs : List Piece) : List Char := qs.flatMap Piece.spelling

theorem spelling_cons (q : Piece) (qs : List Piece) :
    spelling (q :: qs) = q.lead ++ q.token.char :: spelling qs := by
  simp [spelling, Piece.spelling]

theorem pieces_cons_of_not_isMark {c : Char} (h : isMark c = false) (rest : List Char) :
    pieces (c :: rest) = ⟨false, .literal c⟩ :: pieces rest := by
  obtain ⟨htilde, hstar, hmark⟩ := (not_isMark_iff c).mp h
  rw [pieces]
  · exact fun h ↦ absurd h htilde
  · exact fun _ _ h ↦ absurd h htilde
  · exact hstar
  · exact hmark

/-- The pieces have the tokens of the pattern. -/
theorem map_token_pieces (p : List Char) : (pieces p).map Piece.token = tokens p := by
  induction p using patternInduction with
  | nil => rfl
  | tilde => rfl
  | escape c rest ih => exact congrArg _ ih
  | star rest ih => exact congrArg _ ih
  | mark rest ih => exact congrArg _ ih
  | plain c rest hplain ih =>
    rw [pieces_cons_of_not_isMark hplain, tokens_cons_of_not_isMark hplain, List.map_cons, ih]

/-- The pieces have the characters of the pattern. -/
theorem spelling_pieces (p : List Char) : spelling (pieces p) = p := by
  induction p using patternInduction with
  | nil => rfl
  | tilde => rfl
  | escape c rest ih => rw [pieces, spelling_cons, ih]; rfl
  | star rest ih => rw [pieces, spelling_cons, ih]; rfl
  | mark rest ih => rw [pieces, spelling_cons, ih]; rfl
  | plain c rest hplain ih =>
    rw [pieces_cons_of_not_isMark hplain, spelling_cons, ih]
    rfl

/-! ### Folding piece by piece -/

/-- The tokens of a piece in lowercase. -/
def Piece.folded (before after : List Char) (q : Piece) : List Token :=
  match q.token with
  | .literal c => (imageAt (q.lead.reverse ++ before) after c).map .literal
  | t => [t]

def foldedPieces (before : List Char) : List Piece → List Token
  | [] => []
  | q :: qs => q.folded before (spelling qs) ++ foldedPieces (q.spelling.reverse ++ before) qs

theorem foldedPieces_cons (before : List Char) (q : Piece) (qs : List Piece) :
    foldedPieces before (q :: qs) =
      q.folded before (spelling qs) ++ foldedPieces (q.spelling.reverse ++ before) qs := rfl

/-- Characters without a meaning stand for themselves. -/
theorem tokens_append_of_plain {cs : List Char} (h : ∀ c ∈ cs, isMark c = false)
    (rest : List Char) : tokens (cs ++ rest) = cs.map .literal ++ tokens rest := by
  induction cs with
  | nil => rfl
  | cons c cs ih =>
    obtain ⟨hc, hcs⟩ := List.forall_mem_cons.mp h
    rw [List.cons_append, tokens_cons_of_not_isMark hc, ih hcs]
    rfl

/-- A tilde takes the meaning from the first character of an image, and the others have none. -/
theorem tokens_escape_imageAt (before after rest : List Char) (c : Char) :
    tokens ('~' :: (imageAt before after c ++ rest)) =
      (imageAt before after c).map .literal ++ tokens rest := by
  obtain ⟨d, ds, himage⟩ := List.exists_cons_of_ne_nil (imageAt_ne_nil before after c)
  have htail : ∀ d ∈ ds, isMark d = false := by
    have h := @not_isMark_of_mem_tail before after c
    rwa [himage] at h
  rw [himage, List.cons_append, tokens, tokens_append_of_plain htail]
  rfl

/-- Lowercase changes the literals of a pattern, each into its images, and no wildcard. -/
theorem tokens_chars (before p : List Char) :
    tokens (chars before p) = foldedPieces before (pieces p) := by
  induction p using patternInduction generalizing before with
  | nil => rfl
  | tilde =>
    have himage : imageAt before [] '~' = ['~'] := imageAt_of_isMark _ _ (by decide)
    change tokens (imageAt before [] '~' ++ []) = (imageAt before [] '~').map .literal ++ []
    rw [himage]
    rfl
  | escape c rest ih =>
    rw [pieces, foldedPieces_cons, spelling_pieces, ← ih, chars_cons, chars_cons,
      imageAt_of_isMark _ _ (by decide)]
    exact tokens_escape_imageAt _ _ _ _
  | star rest ih =>
    rw [pieces, foldedPieces_cons, ← ih, chars_cons, imageAt_of_isMark _ _ (by decide)]
    rfl
  | mark rest ih =>
    rw [pieces, foldedPieces_cons, ← ih, chars_cons, imageAt_of_isMark _ _ (by decide)]
    rfl
  | plain c rest hplain ih =>
    rw [pieces_cons_of_not_isMark hplain, foldedPieces_cons, spelling_pieces, ← ih, chars_cons,
      tokens_append_of_plain (not_isMark_of_mem_imageAt hplain)]
    rfl

/-! ### Literals -/

def Token.literal? : Token → Option Char
  | .literal c => some c
  | _ => none

/-- The characters that a text has to have, in this order. -/
def literals (ts : List Token) : List Char := ts.filterMap Token.literal?

theorem literals_append (ts us : List Token) :
    literals (ts ++ us) = literals ts ++ literals us := List.filterMap_append

theorem literals_map_literal (cs : List Char) : literals (cs.map .literal) = cs := by
  induction cs with
  | nil => rfl
  | cons c cs ih => exact congrArg (c :: ·) ih

/-- A text has the literals of its pattern, and the characters that the wildcards take. -/
theorem literals_sublist {ts : List Token} {cs : List Char} (h : Matches ts cs) :
    List.Sublist (literals ts) cs := by
  induction h with
  | nil => exact List.Sublist.slnil
  | literal c ts cs _ ih => exact ih.cons_cons c
  | one c ts cs _ ih => exact ih.cons c
  | stop ts cs _ ih => exact ih
  | extend c ts cs _ ih => exact ih.cons c

theorem countP_folded (before after : List Char) (q : Piece) :
    (literals (q.folded before after)).countP isSmallSigma =
      (literals [q.token]).countP isSigma := by
  obtain ⟨escaped, token⟩ := q
  cases token with
  | run => rfl
  | one => rfl
  | literal c =>
    unfold Piece.folded
    dsimp only
    rw [literals_map_literal, countP_imageAt]
    rfl

/-- The pieces are folded one after the other, with as many small sigmas as they have sigmas. -/
theorem exists_foldedPieces_append (before : List Char) (ps qs : List Piece) :
    ∃ front, foldedPieces before (ps ++ qs) =
        front ++ foldedPieces ((spelling ps).reverse ++ before) qs ∧
      (literals front).countP isSmallSigma = (literals (ps.map Piece.token)).countP isSigma := by
  induction ps generalizing before with
  | nil => exact ⟨[], rfl, rfl⟩
  | cons q ps ih =>
    obtain ⟨front, hfront, hcount⟩ := ih (q.spelling.reverse ++ before)
    refine ⟨q.folded before (spelling (ps ++ qs)) ++ front, ?_, ?_⟩
    · rw [List.cons_append, foldedPieces_cons, hfront, List.append_assoc]
      simp only [spelling, List.flatMap_cons, List.reverse_append, List.append_assoc]
    · rw [literals_append, List.countP_append, countP_folded, hcount, List.map_cons,
        ← List.countP_append, ← literals_append, List.singleton_append]

theorem countP_foldedPieces (before : List Char) (qs : List Piece) :
    (literals (foldedPieces before qs)).countP isSmallSigma =
      (literals (qs.map Piece.token)).countP isSigma := by
  obtain ⟨front, hfront, hcount⟩ := exists_foldedPieces_append before qs []
  rw [List.append_nil] at hfront
  rw [hfront, ← hcount]
  simp [foldedPieces]

end Worksheet.Criteria.Wildcard
