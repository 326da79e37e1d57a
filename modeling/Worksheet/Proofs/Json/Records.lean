import Worksheet.Proofs.Json.StoredDoubles

/-!
Arrays and records read back from their stored form.

What is read from a stored value is that value or nothing: a reading `Gives` one value under a
condition. An array gives its items under the conditions of them all (`gives_items`), and a stored
record gives a slot for each of its fields (`record?_zip`). Containers are counted by `Json.depth`.
-/

set_option autoImplicit false
set_option relaxedAutoImplicit false

namespace Worksheet

open Json

/-! ### Readings that give one value or nothing -/

/-- A reading that gives `b` where `p` holds, and nothing elsewhere. -/
def Gives {β : Type} (r : Option β) (b : β) (p : Prop) : Prop := ∀ b', r = some b' ↔ b' = b ∧ p

namespace Gives

variable {β γ : Type} {r : Option β} {b : β} {p q : Prop}

theorem of_eq_some (h : r = some b) (hp : p) : Gives r b p := by
  intro b'
  rw [h, Option.some.injEq, eq_comm]
  exact (and_iff_left hp).symm

theorem of_eq_none (h : r = none) (hp : ¬ p) : Gives r b p := by
  intro b'
  rw [h]
  exact iff_of_false (fun hr ↦ nomatch hr) fun hb ↦ hp hb.2

theorem congr (h : Gives r b p) (hpq : p ↔ q) : Gives r b q := fun b' ↦
  (h b').trans (and_congr_right fun _ ↦ hpq)

theorem map (h : Gives r b p) (f : β → γ) : Gives (r.map f) (f b) p := by
  intro c
  rw [Option.map_eq_some_iff]
  constructor
  · rintro ⟨b', hb', rfl⟩
    obtain ⟨rfl, hp⟩ := (h b').mp hb'
    exact ⟨rfl, hp⟩
  · rintro ⟨rfl, hp⟩
    exact ⟨b, (h b).mpr ⟨rfl, hp⟩, rfl⟩

theorem bind {f : β → Option γ} {c : γ} (h : Gives r b p) (hf : Gives (f b) c q) :
    Gives (r.bind f) c (p ∧ q) := by
  intro c'
  rw [Option.bind_eq_some_iff]
  constructor
  · rintro ⟨b', hb', hc'⟩
    obtain ⟨rfl, hp⟩ := (h b').mp hb'
    obtain ⟨rfl, hq⟩ := (hf c').mp hc'
    exact ⟨rfl, hp, hq⟩
  · rintro ⟨rfl, hp, hq⟩
    exact ⟨b, (h b).mpr ⟨rfl, hp⟩, (hf c').mpr ⟨rfl, hq⟩⟩

theorem bind_of_eq_some {f : β → Option γ} {c : γ} (h : r = some b) (hf : Gives (f b) c q) :
    Gives (r.bind f) c q := by
  rw [h]
  exact hf

end Gives

/-! ### Records -/

namespace Json

theorem ofMembers?_append_cons {key : String} (j : Json)
    {before after : List (Option String × Json)} (hbefore : ∀ m ∈ before, m.1 ≠ some key)
    (hafter : ∀ m ∈ after, m.1 ≠ some key) :
    Slot.ofMembers? (before ++ (some key, j) :: after) key = some (.given j) := by
  have hnone : ∀ members : List (Option String × Json), (∀ m ∈ members, m.1 ≠ some key) →
      members.filter (fun m ↦ m.1 == some key) = [] := fun members hnew ↦
    List.filter_eq_nil_iff.mpr fun m hm ↦ by simpa using hnew m hm
  unfold Slot.ofMembers?
  rw [List.filter_append, hnone before hbefore, List.filter_cons_of_pos (by simp),
    hnone after hafter]
  rfl

theorem fst_mem_of_mem_zip {names : List String} {values : List Json}
    {m : Option String × Json} (hm : m ∈ (names.map some).zip values) :
    ∃ name ∈ names, m.1 = some name := by
  obtain ⟨key, j⟩ := m
  obtain ⟨name, hname, hkey⟩ := List.mem_map.mp (List.of_mem_zip hm).1
  exact ⟨name, hname, hkey.symm⟩

/-- Every named field is found, whatever members of other names stand before. -/
theorem mapM_ofMembers?_zip {names : List String} {values : List Json} (hnodup : names.Nodup)
    (hlength : names.length = values.length) (before : List (Option String × Json))
    (hbefore : ∀ m ∈ before, ∀ name ∈ names, m.1 ≠ some name) :
    names.mapM (Slot.ofMembers? (before ++ (names.map some).zip values)) =
      some (values.map .given) := by
  induction names generalizing values before with
  | nil =>
    obtain rfl := List.length_eq_zero_iff.mp hlength.symm
    rfl
  | cons name names ih =>
    obtain _ | ⟨j, values⟩ := values
    · cases hlength
    obtain ⟨hname, hnodup⟩ := List.nodup_cons.mp hnodup
    have hself : Slot.ofMembers? (before ++ (some name, j) :: (names.map some).zip values) name =
        some (.given j) := by
      refine ofMembers?_append_cons j (fun m hm ↦ hbefore m hm name List.mem_cons_self) ?_
      rintro m hm hkey
      obtain ⟨other, hother, hm'⟩ := fst_mem_of_mem_zip hm
      exact hname (Option.some.inj (hkey.symm.trans hm') ▸ hother)
    have hrest := ih hnodup (Nat.succ.inj hlength) (before ++ [(some name, j)]) (by
      intro m hm other hother
      rcases List.mem_append.mp hm with hm | hm
      · exact hbefore m hm other (List.mem_cons_of_mem _ hother)
      · obtain rfl := List.mem_singleton.mp hm
        exact fun hkey ↦ hname (Option.some.inj hkey ▸ hother))
    rw [List.append_assoc, List.singleton_append] at hrest
    rw [List.map_cons, List.zip_cons_cons, List.mapM_cons, hself, hrest]
    rfl

/-- A record with all its fields. -/
theorem record?_zip (names : List String) (values : List Json) (hnodup : names.Nodup)
    (hlength : names.length = values.length) (depth : Nat) :
    record? depth names (.object ((names.map some).zip values)) =
      if depth = 0 then none else some (values.map .given) := by
  have hkeys : ((names.map some).zip values).any (·.1.isNone) = false := by
    rw [List.any_eq_false]
    intro m hm
    obtain ⟨name, -, hkey⟩ := fst_mem_of_mem_zip hm
    simp [hkey]
  have hslots := mapM_ofMembers?_zip hnodup hlength [] (fun m hm ↦ nomatch hm)
  rw [List.nil_append] at hslots
  unfold record?
  dsimp only
  rw [hkeys, hslots]
  simp

/-- An array is given if each of its items is. -/
theorem gives_items {β : Type} {read : Json → Option β} {write : β → Json} {p : β → Prop}
    (bs : List β) (h : ∀ b ∈ bs, Gives (read (write b)) b (p b)) :
    Gives (items? read (array (bs.map write))) bs (∀ b ∈ bs, p b) := by
  change Gives ((bs.map write).mapM read) bs _
  induction bs with
  | nil => exact .of_eq_some rfl fun _ hb ↦ nomatch hb
  | cons b bs ih =>
    rw [List.map_cons, List.mapM_cons]
    have htail := (ih fun b hb ↦ h b (List.mem_cons_of_mem _ hb)).map (b :: ·)
    rw [Option.map_eq_bind] at htail
    exact ((h b List.mem_cons_self).bind htail).congr List.forall_mem_cons.symm

theorem optional?_ofOption {β : Type} (read : Json → Option β) (write : β → Json)
    (hnull : ∀ b, write b ≠ null) (h : ∀ b, read (write b) = some b) (o : Option β) :
    (Slot.given (ofOption write o)).optional? read = some o := by
  cases o with
  | none => rfl
  | some b =>
    change (Slot.given (write b)).optional? read = _
    unfold Slot.optional?
    split
    · next hgiven => exact absurd (Slot.given.inj hgiven) (hnull b)
    · next hgiven => rw [← Slot.given.inj hgiven, h, Option.map_some]
    · next hgiven => cases hgiven
    · next hgiven => cases hgiven

theorem gives_float {read : DoubleReader} (h : read.ReadsBack) (x : Float) :
    Gives (float? read (ofFloat x)) x (x.isFinite = true) := by
  by_cases hfinite : x.isFinite = true
  · exact .of_eq_some (float?_ofFloat h hfinite) hfinite
  · exact .of_eq_none (float?_ofFloat_of_not_finite read x (Bool.eq_false_iff.mpr hfinite)) hfinite

theorem storable_ofInt (i : Int) : (ofInt i).Storable := by
  unfold ofInt
  rw [← Decimal.Numeral.text_ofInt]
  exact .number _ (Decimal.Numeral.storable_ofInt i)

theorem storable_ofOption {β : Type} {write : β → Json} (h : ∀ b, (write b).Storable)
    (o : Option β) : (ofOption write o).Storable := by
  cases o with
  | none => exact .null
  | some b => exact h b

mutual

/-- How deep the containers of a value nest. -/
def depth : Json → Nat
  | array items => itemsDepth items + 1
  | object members => membersDepth members + 1
  | _ => 0

def itemsDepth : List Json → Nat
  | [] => 0
  | j :: js => max j.depth (itemsDepth js)

def membersDepth : List (Option String × Json) → Nat
  | [] => 0
  | (_, j) :: members => max j.depth (membersDepth members)

end

theorem depth_ofFloat (x : Float) : (ofFloat x).depth = 0 := by
  unfold ofFloat
  split <;> rfl

theorem itemsDepth_le_iff (js : List Json) (n : Nat) :
    itemsDepth js ≤ n ↔ ∀ j ∈ js, j.depth ≤ n := by
  induction js with
  | nil => simp [itemsDepth]
  | cons j js ih => rw [itemsDepth, Nat.max_le, ih, List.forall_mem_cons]

theorem depth_array_map_le_iff {β : Type} (write : β → Json) (bs : List β) (n : Nat) :
    (array (bs.map write)).depth ≤ n ↔ 1 ≤ n ∧ ∀ b ∈ bs, (write b).depth ≤ n - 1 := by
  have hitems := itemsDepth_le_iff (bs.map write) (n - 1)
  rw [List.forall_mem_map] at hitems
  rw [← hitems, depth]
  omega

end Json

end Worksheet
