import Worksheet.Json.Codec
import Worksheet.Proofs.Json.StoredNumbers

/-!
Stored values and their text.

A value can be stored when its numbers are stored numbers and its strings and keys denote texts. The
text written for such a value is read back as the value itself (`parse_write`). The two halves are
`lexes_render`, where the text falls into tokens, and `builds_tokens`, where the tokens build the
value. Either is an induction over the value, with one lemma for what stands between commas.
-/

set_option autoImplicit false
set_option relaxedAutoImplicit false

namespace Worksheet.Json

open Decimal

/-! ### Strings -/

namespace Literal

theorem unit?_of_control {n : Nat} (h : n < 0x20) :
    unit? '0' '0' (Nat.digitChar (n / 16)) (Nat.digitChar (n % 16)) = some n := by
  have hall : ∀ n < 0x20,
      unit? '0' '0' (Nat.digitChar (n / 16)) (Nat.digitChar (n % 16)) = some n := by decide
  exact hall n h

/-- An escaped character is read as the character. -/
theorem body_escape_append (c : Char) (rest : List Char) :
    body (escape c ++ rest) = (body rest).map fun p ↦ (.char c :: p.1, p.2) := by
  unfold escape
  split
  case h_8 hquote hslash _ _ _ _ _ =>
    split
    · next hcontrol =>
      have hunit : pieceOfUnit c.toNat = .char c := by
        have hhigh : isHigh c.toNat = false := by simp [isHigh]; omega
        have hlow : isLow c.toNat = false := by simp [isLow]; omega
        rw [pieceOfUnit, hhigh, hlow, if_neg (by simp), Char.ofNat_toNat]
      simp only [List.cons_append, List.nil_append]
      rw [body, unit?_of_control hcontrol]
      cases body rest <;> simp [hunit]
    · next hprintable =>
      simp only [List.cons_append, List.nil_append]
      rw [body]
      · rw [if_neg (not_or.mpr ⟨hslash, hprintable⟩)]
      · exact hquote
      · intro a b d e tail h
        exact absurd h hslash
      · intro letter tail h
        exact absurd h hslash
  all_goals
    simp only [List.cons_append, List.nil_append]
    rw [body]
    · cases body rest <;> rfl
    · intro a b c d tail h
      cases h

theorem body_flatMap_escape (cs rest : List Char) :
    body (cs.flatMap escape ++ '"' :: rest) = some (cs.map .char, rest) := by
  induction cs with
  | nil => rw [List.flatMap_nil, List.nil_append, body]; rfl
  | cons c cs ih =>
    rw [List.flatMap_cons, List.append_assoc, body_escape_append, ih]
    rfl

theorem join_map_char (cs : List Char) : join (cs.map .char) = some cs := by
  induction cs with
  | nil => rfl
  | cons c cs ih => rw [List.map_cons, join, ih]; rfl

end Literal

/-! ### From the text to the tokens -/

/-- A text that is certain tokens, whatever follows. -/
def Lexes (cs : List Char) (ts : List Token) : Prop :=
  ∀ rest, Numeral.Follows rest → lex (cs ++ rest) = (lex rest).map (ts ++ ·)

theorem lex_cons {c : Char} {cs rest : List Char} {t : Token} (hblank : Lexer.isBlank c = false)
    (hnext : Lexer.next? c cs = some (t, rest)) :
    lex (c :: cs) = (lex rest).map (t :: ·) := by
  rw [lex, if_neg (by simp [hblank])]
  split
  · next h => cases h.symm.trans hnext
  · next h =>
    obtain ⟨rfl, rfl⟩ := Prod.mk.inj (Option.some.inj (h.symm.trans hnext))
    rfl

theorem lex_write_append (s : String) (rest : List Char) :
    lex (Literal.write s ++ rest) = (lex rest).map (.string (some s) :: ·) := by
  refine lex_cons (c := '"') (by decide) ?_
  change (Literal.body (s.toList.flatMap Literal.escape ++ ['"'] ++ rest)).map _ = _
  rw [List.append_assoc, List.singleton_append, Literal.body_flatMap_escape, Option.map_some]
  dsimp only
  rw [Literal.join_map_char, Option.map_some, String.ofList_toList]

theorem exists_numeral_text {n : Numeral} (h : n.Storable) :
    ∃ c cs, n.text = c :: cs ∧ (c = '-' ∨ Lexer.isDigit c = true) := by
  obtain ⟨d, ds, hwhole⟩ := h.exists_whole
  unfold Numeral.text
  cases n.negative with
  | false =>
    exact ⟨d, _, by rw [hwhole]; rfl, Or.inr (h.whole d (hwhole ▸ List.mem_cons_self))⟩
  | true => exact ⟨'-', _, rfl, Or.inl rfl⟩

theorem next?_of_numeric {c : Char} (hc : c = '-' ∨ Lexer.isDigit c = true) (cs : List Char) :
    Lexer.next? c cs =
      (Lexer.number? (c :: cs)).map fun p ↦ (Token.number p.1, p.2) := by
  unfold Lexer.next?
  split
  case h_11 => rfl
  all_goals exact absurd hc (by decide)

theorem isBlank_of_numeric {c : Char} (hc : c = '-' ∨ Lexer.isDigit c = true) :
    Lexer.isBlank c = false := by
  rcases hc with rfl | hdigit
  · decide
  · have hne : ∀ d, Lexer.isDigit d = false → c ≠ d := fun d ↦ ne_of_isDigit hdigit
    simp [Lexer.isBlank, hne ' ' (by decide), hne '\n' (by decide), hne '\r' (by decide),
      hne '\t' (by decide)]

theorem lexes_numeral {n : Numeral} (h : n.Storable) : Lexes n.text [.number n.text] := by
  intro rest hrest
  obtain ⟨c, cs, htext, hc⟩ := exists_numeral_text h
  have hnumber := Numeral.number?_text h hrest
  rw [htext] at hnumber ⊢
  refine lex_cons (isBlank_of_numeric hc) ?_
  rw [next?_of_numeric hc]
  exact congrArg (Option.map _) hnumber

/-- A token that is one character. -/
theorem lex_mark {c : Char} {t : Token} (hblank : Lexer.isBlank c = false)
    (hnext : ∀ cs, Lexer.next? c cs = some (t, cs)) (rest : List Char) :
    lex (c :: rest) = (lex rest).map (t :: ·) := lex_cons hblank (hnext rest)

theorem lexes_enclosed {opening closing : Char} {first last : Token} {cs : List Char}
    {ts : List Token} (hopening : ∀ rest, lex (opening :: rest) = (lex rest).map (first :: ·))
    (hclosing : ∀ rest, lex (closing :: rest) = (lex rest).map (last :: ·))
    (hfollows : closing = ']' ∨ closing = '\x7d') (h : Lexes cs ts) :
    Lexes (opening :: cs ++ [closing]) (first :: ts ++ [last]) := by
  intro rest _
  have hinner : Numeral.Follows (closing :: rest) := by
    rintro c hc
    obtain rfl := Option.some.inj hc
    exact Or.inr hfollows
  rw [List.cons_append, List.cons_append, List.append_assoc, List.singleton_append, hopening,
    h _ hinner, hclosing, Option.map_map, Option.map_map]
  congr 1
  funext rest
  simp

/-- What stands between commas falls into tokens one by one. -/
theorem lexes_commaSeparated {β : Type} (text : β → List Char) (tokens : β → List Token)
    (items : List β) (h : ∀ b ∈ items, Lexes (text b) (tokens b)) :
    Lexes (commaSeparated (items.map text)) ([Token.comma].intercalate (items.map tokens)) := by
  induction items with
  | nil =>
    intro rest _
    exact (Option.map_id' (x := lex rest)).symm
  | cons b items ih =>
    have hb := h b List.mem_cons_self
    cases items with
    | nil =>
      simpa only [commaSeparated, List.map_cons, List.map_nil, List.intercalate_singleton] using hb
    | cons b' items =>
      intro rest hrest
      have hcomma : Numeral.Follows (',' :: (commaSeparated ((b' :: items).map text) ++ rest)) := by
        rintro c hc
        exact Or.inl (Option.some.inj hc).symm
      have hmore := ih (fun b hb ↦ h b (List.mem_cons_of_mem _ hb)) rest hrest
      have hsplit : commaSeparated ((b :: b' :: items).map text) ++ rest =
          text b ++ ',' :: (commaSeparated ((b' :: items).map text) ++ rest) := by
        simp only [commaSeparated, List.map_cons, List.intercalate_cons_cons, List.append_assoc,
          List.cons_append, List.nil_append]
      rw [hsplit, hb _ hcomma, lex_mark (c := ',') (by decide) (fun _ ↦ rfl), hmore,
        Option.map_map, Option.map_map]
      congr 1
      funext ts
      simp only [Function.comp_apply, List.map_cons, List.intercalate_cons_cons, List.append_assoc,
        List.cons_append, List.nil_append]

/-! ### From the tokens to the value -/

/-- Tokens that complete a value wherever a value is awaited. -/
def Builds (ts : List Token) (j : Json) : Prop :=
  ∀ outer rest, (ts ++ rest).foldlM State.step (.value outer) =
    rest.foldlM State.step (State.plug outer j)

theorem builds_single {t : Token} {j : Json}
    (h : ∀ outer, State.beginValue outer t = some (State.plug outer j)) : Builds [t] j := by
  intro outer rest
  change (State.beginValue outer t).bind _ = _
  rw [h, Option.bind_some]
  rfl

/-- The first token of an item is no closing bracket, so an array that has just been opened reads it
as one that waits for its next item. -/
theorem foldlM_firstItem {ts : List Token} {j : Json} (h : Builds ts j) (outer : List Frame)
    (rest : List Token) :
    (ts ++ rest).foldlM State.step (.firstItem outer) =
      (ts ++ rest).foldlM State.step (.value (.items [] :: outer)) := by
  cases ts with
  | nil => cases h [] []
  | cons t ts =>
    have hstep : State.step (.firstItem outer) t = State.step (.value (.items [] :: outer)) t := by
      cases t with
      | closeArray => cases h [] []
      | _ => rfl
    rw [List.cons_append, List.foldlM_cons, List.foldlM_cons, hstep]

section

variable {tokens : Json → List Token} (outer : List Frame) (rest : List Token)

theorem foldlM_items (items : List Json) (j : Json) (done : List Json)
    (h : ∀ k ∈ j :: items, Builds (tokens k) k) :
    ([Token.comma].intercalate ((j :: items).map tokens) ++ .closeArray :: rest).foldlM State.step
        (.value (.items done :: outer)) =
      rest.foldlM State.step (State.plug outer (.array (done.reverse ++ j :: items))) := by
  have hj := h j List.mem_cons_self
  induction items generalizing j done with
  | nil =>
    rw [List.map_cons, List.map_nil, List.intercalate_singleton, hj]
    change rest.foldlM State.step (State.plug outer (.array (j :: done).reverse)) = _
    rw [List.reverse_cons]
  | cons j' items ih =>
    rw [List.map_cons, List.map_cons, List.intercalate_cons_cons, List.append_assoc,
      List.append_assoc, hj]
    change ([Token.comma].intercalate ((j' :: items).map tokens) ++ .closeArray :: rest).foldlM
      State.step (.value (.items (j :: done) :: outer)) = _
    have hitems : ∀ k ∈ j' :: items, Builds (tokens k) k := fun k hk ↦
      h k (List.mem_cons_of_mem _ hk)
    rw [ih j' (j :: done) hitems (hitems j' List.mem_cons_self), List.reverse_cons,
      List.append_assoc, List.singleton_append]

def memberTokens (tokens : Json → List Token) (member : Option String × Json) : List Token :=
  .string member.1 :: .colon :: tokens member.2

theorem foldlM_member {member : Option String × Json} {done : List (Option String × Json)}
    {s : State} (hs : ∀ key, State.step s (.string key) = some (.colon outer done key))
    (h : Builds (tokens member.2) member.2) :
    (memberTokens tokens member ++ rest).foldlM State.step s =
      rest.foldlM State.step (State.afterMember outer (member :: done)) := by
  rw [memberTokens, List.cons_append, List.foldlM_cons, hs]
  change (tokens member.2 ++ rest).foldlM State.step (.value (.members done member.1 :: outer)) = _
  rw [h]
  rfl

theorem foldlM_members (members : List (Option String × Json)) (member : Option String × Json)
    (done : List (Option String × Json)) {s : State}
    (hs : ∀ key, State.step s (.string key) = some (.colon outer done key))
    (h : ∀ m ∈ member :: members, Builds (tokens m.2) m.2) :
    ([Token.comma].intercalate ((member :: members).map (memberTokens tokens)) ++
        .closeObject :: rest).foldlM State.step s =
      rest.foldlM State.step (State.plug outer (.object (done.reverse ++ member :: members))) := by
  have hmember := h member List.mem_cons_self
  induction members generalizing member done s with
  | nil =>
    rw [List.map_cons, List.map_nil, List.intercalate_singleton, foldlM_member outer _ hs hmember]
    change rest.foldlM State.step (State.plug outer (.object (member :: done).reverse)) = _
    rw [List.reverse_cons]
  | cons member' members ih =>
    rw [List.map_cons, List.map_cons, List.intercalate_cons_cons, List.append_assoc,
      List.append_assoc, foldlM_member outer _ hs hmember]
    change ([Token.comma].intercalate ((member' :: members).map (memberTokens tokens)) ++
      .closeObject :: rest).foldlM State.step (.nextKey outer (member :: done)) = _
    have hmembers : ∀ m ∈ member' :: members, Builds (tokens m.2) m.2 := fun m hm ↦
      h m (List.mem_cons_of_mem _ hm)
    rw [ih member' (member :: done) (fun _ ↦ rfl) hmembers (hmembers member' List.mem_cons_self),
      List.reverse_cons, List.append_assoc, List.singleton_append]

theorem exists_intercalate_cons {β : Type} (separator xs : List β) (xss : List (List β)) :
    ∃ rest, separator.intercalate (xs :: xss) = xs ++ rest := by
  cases xss with
  | nil => exact ⟨[], by rw [List.intercalate_singleton, List.append_nil]⟩
  | cons ys xss => exact ⟨_, by rw [List.intercalate_cons_cons, List.append_assoc]⟩

theorem builds_array {items : List Json} (h : ∀ j ∈ items, Builds (tokens j) j) :
    Builds (.openArray :: [Token.comma].intercalate (items.map tokens) ++ [.closeArray])
      (.array items) := by
  intro outer rest
  cases items with
  | nil => rfl
  | cons j items =>
    obtain ⟨more, hmore⟩ := exists_intercalate_cons [Token.comma] (tokens j) (items.map tokens)
    rw [List.cons_append, List.cons_append, List.append_assoc, List.singleton_append]
    change ([Token.comma].intercalate ((j :: items).map tokens) ++ .closeArray :: rest).foldlM
      State.step (.firstItem outer) = _
    rw [List.map_cons, hmore, List.append_assoc, foldlM_firstItem (h j List.mem_cons_self),
      ← List.append_assoc, ← hmore]
    exact foldlM_items outer rest items j [] h

theorem builds_object {members : List (Option String × Json)}
    (h : ∀ m ∈ members, Builds (tokens m.2) m.2) :
    Builds (.openObject :: [Token.comma].intercalate (members.map (memberTokens tokens)) ++
      [.closeObject]) (.object members) := by
  intro outer rest
  cases members with
  | nil => rfl
  | cons member members =>
    rw [List.cons_append, List.cons_append, List.append_assoc, List.singleton_append]
    exact foldlM_members outer rest members member [] (fun _ ↦ rfl) h

end

/-! ### The whole way -/

mutual

/-- The tokens of the text of a value. -/
def tokens : Json → List Token
  | null => [.null]
  | bool b => [.bool b]
  | number lexeme => [.number lexeme]
  | string s => [.string s]
  | array items => .openArray :: [Token.comma].intercalate (itemTokens items) ++ [.closeArray]
  | object members =>
    .openObject :: [Token.comma].intercalate (membersTokens members) ++ [.closeObject]

def itemTokens : List Json → List (List Token)
  | [] => []
  | j :: js => j.tokens :: itemTokens js

def membersTokens : List (Option String × Json) → List (List Token)
  | [] => []
  | (key, j) :: members => (.string key :: .colon :: j.tokens) :: membersTokens members

end

theorem itemTokens_eq_map (js : List Json) : itemTokens js = js.map tokens := by
  induction js with
  | nil => rw [itemTokens, List.map_nil]
  | cons j js ih => rw [itemTokens, ih, List.map_cons]

theorem membersTokens_eq_map (members : List (Option String × Json)) :
    membersTokens members = members.map (memberTokens tokens) := by
  induction members with
  | nil => rw [membersTokens, List.map_nil]
  | cons member members ih => rw [membersTokens, ih, List.map_cons, memberTokens]

theorem renderMembers_eq_map (members : List (Option String × Json)) :
    renderMembers members = members.map fun m ↦ renderString m.1 ++ ':' :: m.2.render := by
  induction members with
  | nil => rw [renderMembers, List.map_nil]
  | cons member members ih => rw [renderMembers, ih, List.map_cons]

/-- A value whose text can be read: its numbers are stored numbers, and its strings and keys denote
texts. -/
inductive Storable : Json → Prop where
  | null : Storable null
  | bool (b : Bool) : Storable (bool b)
  | number (n : Numeral) (h : n.Storable) : Storable (number n.text)
  | text (s : String) : Storable (text s)
  | array (items : List Json) (h : ∀ j ∈ items, Storable j) : Storable (array items)
  | object (members : List (Option String × Json)) (hkeys : ∀ m ∈ members, m.1.isSome)
      (h : ∀ m ∈ members, Storable m.2) : Storable (object members)

theorem builds_tokens {j : Json} (h : j.Storable) : Builds j.tokens j := by
  induction h with
  | null => exact builds_single fun _ ↦ rfl
  | bool b => exact builds_single fun _ ↦ rfl
  | number n => exact builds_single fun _ ↦ rfl
  | text s => exact builds_single fun _ ↦ rfl
  | array items _ ih =>
    rw [tokens, itemTokens_eq_map]
    exact builds_array ih
  | object members _ _ ih =>
    rw [tokens, membersTokens_eq_map]
    exact builds_object ih

theorem lexes_word {c : Char} {cs : List Char} {t : Token} (hblank : Lexer.isBlank c = false)
    (h : ∀ rest, Lexer.next? c (cs ++ rest) = some (t, rest)) : Lexes (c :: cs) [t] :=
  fun rest _ ↦ lex_cons hblank (h rest)

theorem lexes_member {key : String} {j : Json} (h : Lexes j.render j.tokens) :
    Lexes (Literal.write key ++ ':' :: j.render) (.string (some key) :: .colon :: j.tokens) := by
  intro rest hrest
  rw [List.append_assoc, lex_write_append, List.cons_append,
    lex_mark (c := ':') (by decide) (fun _ ↦ rfl), h rest hrest, Option.map_map, Option.map_map]
  rfl

theorem lexes_render {j : Json} (h : j.Storable) : Lexes j.render j.tokens := by
  induction h with
  | null => exact lexes_word (by decide) fun _ ↦ rfl
  | bool b =>
    cases b with
    | false => exact lexes_word (by decide) fun _ ↦ rfl
    | true => exact lexes_word (by decide) fun _ ↦ rfl
  | number n h => exact lexes_numeral h
  | text s => exact fun rest _ ↦ lex_write_append s rest
  | array items _ ih =>
    rw [render, renderItems_eq_map, tokens, itemTokens_eq_map]
    exact lexes_enclosed (lex_mark (by decide) fun _ ↦ rfl) (lex_mark (by decide) fun _ ↦ rfl)
      (Or.inl rfl) (lexes_commaSeparated render tokens items ih)
  | object members hkeys _ ih =>
    rw [render, renderMembers_eq_map, tokens, membersTokens_eq_map]
    refine lexes_enclosed (lex_mark (by decide) fun _ ↦ rfl) (lex_mark (by decide) fun _ ↦ rfl)
      (Or.inr rfl) (lexes_commaSeparated _ _ members fun m hm ↦ ?_)
    obtain ⟨key, hkey⟩ := Option.isSome_iff_exists.mp (hkeys m hm)
    rw [memberTokens, hkey]
    exact lexes_member (ih m hm)

/-- The text of a value is read as the value. -/
theorem parse_write {j : Json} (h : j.Storable) : parse (write j) = some j := by
  have hlex := lexes_render h [] (fun _ hc ↦ nomatch hc)
  have hbuild := builds_tokens h [] []
  rw [List.append_nil] at hlex hbuild
  unfold parse write
  rw [String.toList_ofList, hlex, lex, Option.map_some, Option.bind_some, List.append_nil]
  unfold ofTokens
  rw [hbuild]
  rfl

end Worksheet.Json
