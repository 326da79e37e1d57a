import Mathlib.Data.List.Perm.Basic
import Worksheet.Catalogue
import Worksheet.Proofs.Text.Spelling

/-!
Runs of registrations.

A call on a draft adds an entry whose key is new, or leaves the draft as it was (`register_cases`).
After a run of calls the entries are those of the functions whose calls succeeded
(`entries_attemptEach`), and no two of them have one key (`keysDistinct_attemptEach`). A key stands
for a namespace and a name up to the case of ASCII letters (`answersTo_iff`). From this everything
that can be asked of the draft and of its catalogue is known (`answers_and_registry_attemptEach`):
which calls failed and which would fail next, what is found under a name, how many functions there
are, their names, and how far a list of functions is registered.
-/

set_option autoImplicit false
set_option relaxedAutoImplicit false

namespace Worksheet

open Text

/-! ### Keys -/

/-- The function has this namespace and this name, up to the case of ASCII letters. -/
def SheetFunction.AnswersTo (f : SheetFunction) (namespaceName name : String) : Prop :=
  List.Forall₂ SameLetter f.namespaceName.toList namespaceName.toList ∧
    List.Forall₂ SameLetter f.name.toList name.toList

theorem SheetFunction.answersTo_iff (f : SheetFunction) (namespaceName name : String) :
    f.AnswersTo namespaceName name ↔ f.key = .of namespaceName name := by
  rw [AnswersTo, forall₂_sameLetter_iff_asciiUpper, forall₂_sameLetter_iff_asciiUpper, key,
    FunctionKey.of, FunctionKey.of, FunctionKey.mk.injEq]

def KeysDistinct (entries : List (FunctionKey × SheetFunction)) : Prop :=
  entries.Pairwise fun e e' ↦ e.1 ≠ e'.1

theorem keysDistinct_concat (entries : List (FunctionKey × SheetFunction))
    (entry : FunctionKey × SheetFunction) :
    KeysDistinct (entries ++ [entry]) ↔
      KeysDistinct entries ∧ ¬ ∃ e ∈ entries, e.1 = entry.1 := by
  simp only [KeysDistinct, List.pairwise_append, List.pairwise_singleton, List.mem_singleton,
    forall_eq, true_and, not_exists, not_and, ne_eq]

theorem lookup_eq_none_iff_not_mem (entries : List (FunctionKey × SheetFunction))
    (key : FunctionKey) : entries.lookup key = none ↔ ¬ ∃ e ∈ entries, e.1 = key := by
  simp only [List.lookup_eq_none_iff, bne_iff_ne, ne_eq, @eq_comm _ key, not_exists, not_and]

/-- Among entries with distinct keys a look-up gives the only one of its key. -/
theorem lookup_eq_some_iff_mem {entries : List (FunctionKey × SheetFunction)}
    (hdistinct : KeysDistinct entries) (key : FunctionKey) (f : SheetFunction) :
    entries.lookup key = some f ↔ (key, f) ∈ entries := by
  rw [List.lookup_eq_some_iff]
  constructor
  · rintro ⟨before, after, rfl, -⟩
    exact List.mem_append_right before List.mem_cons_self
  · intro hmem
    obtain ⟨before, after, rfl⟩ := List.append_of_mem hmem
    refine ⟨before, after, rfl, fun e he ↦ ?_⟩
    have hne : e.1 ≠ key := (List.pairwise_append.mp hdistinct).2.2 e he (key, f) List.mem_cons_self
    exact bne_iff_ne.mpr hne.symm

/-- The entries of functions that have been registered. -/
def entriesOf (functions : List SheetFunction) : List (FunctionKey × SheetFunction) :=
  functions.map SheetFunction.entry

theorem mem_entriesOf_iff (functions : List SheetFunction) (namespaceName name : String)
    (f : SheetFunction) :
    (FunctionKey.of namespaceName name, f) ∈ entriesOf functions ↔
      f ∈ functions ∧ f.AnswersTo namespaceName name := by
  rw [entriesOf, List.mem_map, SheetFunction.answersTo_iff]
  constructor
  · rintro ⟨g, hg, hentry⟩
    obtain ⟨hkey, rfl⟩ := Prod.mk.inj hentry
    exact ⟨hg, hkey⟩
  · rintro ⟨hf, hkey⟩
    exact ⟨f, hf, congrArg (·, f) hkey⟩

theorem exists_entry_iff (functions : List SheetFunction) (namespaceName name : String) :
    (∃ e ∈ entriesOf functions, e.1 = .of namespaceName name) ↔
      ∃ g ∈ functions, g.AnswersTo namespaceName name := by
  simp [entriesOf, SheetFunction.entry, SheetFunction.answersTo_iff]

namespace Draft

/-! ### One call -/

theorem register_of_mem {d : Draft} {f : SheetFunction} (h : ∃ e ∈ d.entries, e.1 = f.key) :
    d.register f = (d, some f.duplicate) := by
  have hfound : (d.entries.lookup f.key).isSome = true := by
    rw [Option.isSome_iff_ne_none, ne_eq, lookup_eq_none_iff_not_mem]
    exact not_not_intro h
  rw [register, if_pos hfound]

theorem register_of_fresh {d : Draft} {f : SheetFunction} (h : ¬ ∃ e ∈ d.entries, e.1 = f.key) :
    d.register f = (⟨d.entries ++ [f.entry]⟩, none) := by
  rw [register, (lookup_eq_none_iff_not_mem d.entries f.key).mpr h]
  rfl

theorem register_cases (d : Draft) (f : SheetFunction) :
    ((∃ e ∈ d.entries, e.1 = f.key) ∧ d.register f = (d, some f.duplicate)) ∨
      ((¬ ∃ e ∈ d.entries, e.1 = f.key) ∧ d.register f = (⟨d.entries ++ [f.entry]⟩, none)) := by
  by_cases h : ∃ e ∈ d.entries, e.1 = f.key
  · exact Or.inl ⟨h, register_of_mem h⟩
  · exact Or.inr ⟨h, register_of_fresh h⟩

/-! ### A run of calls -/

/-- One call after another, whatever the answers. -/
def attemptEach (d : Draft) : List SheetFunction → Draft × List (Option Duplicate)
  | [] => (d, [])
  | f :: fs =>
    let rest := (d.register f).1.attemptEach fs
    (rest.1, (d.register f).2 :: rest.2)

/-- The functions of the calls that reported no duplicate. -/
def accepted (calls : List SheetFunction) (answers : List (Option Duplicate)) :
    List SheetFunction :=
  ((calls.zip answers).filter fun call ↦ call.2.isNone).map Prod.fst

theorem length_answers (d : Draft) (calls : List SheetFunction) :
    (d.attemptEach calls).2.length = calls.length := by
  induction calls generalizing d with
  | nil => rfl
  | cons f fs ih => exact congrArg (· + 1) (ih (d.register f).1)

theorem attemptEach_append (d : Draft) (calls more : List SheetFunction) :
    d.attemptEach (calls ++ more) =
      (((d.attemptEach calls).1.attemptEach more).1,
        (d.attemptEach calls).2 ++ ((d.attemptEach calls).1.attemptEach more).2) := by
  induction calls generalizing d with
  | nil => rfl
  | cons f fs ih => simp only [List.cons_append, attemptEach, ih]

theorem accepted_cons_none (f : SheetFunction) (calls : List SheetFunction)
    (answers : List (Option Duplicate)) :
    accepted (f :: calls) (none :: answers) = f :: accepted calls answers := by
  simp [accepted]

theorem accepted_cons_some (f : SheetFunction) (calls : List SheetFunction)
    (duplicate : Duplicate) (answers : List (Option Duplicate)) :
    accepted (f :: calls) (some duplicate :: answers) = accepted calls answers := by
  simp [accepted]

theorem entries_attemptEach (d : Draft) (calls : List SheetFunction) :
    (d.attemptEach calls).1.entries =
      d.entries ++ entriesOf (accepted calls (d.attemptEach calls).2) := by
  -- A call that succeeds puts its entry in front of those that the rest of the run adds.
  induction calls generalizing d with
  | nil => exact (List.append_nil d.entries).symm
  | cons f fs ih =>
    rcases d.register_cases f with ⟨-, hrefused⟩ | ⟨-, haccepted⟩
    · rw [attemptEach, hrefused, accepted_cons_some]
      exact ih d
    · rw [attemptEach, haccepted, accepted_cons_none]
      exact (ih ⟨d.entries ++ [f.entry]⟩).trans (List.append_cons ..).symm

theorem keysDistinct_register {d : Draft} (hd : KeysDistinct d.entries) (f : SheetFunction) :
    KeysDistinct (d.register f).1.entries := by
  rcases d.register_cases f with ⟨-, hrefused⟩ | ⟨hfresh, haccepted⟩
  · rw [hrefused]
    exact hd
  · rw [haccepted]
    exact (keysDistinct_concat d.entries f.entry).mpr ⟨hd, hfresh⟩

theorem keysDistinct_attemptEach {d : Draft} (hd : KeysDistinct d.entries)
    (calls : List SheetFunction) : KeysDistinct (d.attemptEach calls).1.entries := by
  induction calls generalizing d with
  | nil => exact hd
  | cons f fs ih => exact ih (keysDistinct_register hd f)

/-! ### A list of functions at once -/

/-- What becomes of a draft to which a list of functions is added at once: all of them are
registered, or those before the first that is refused. -/
inductive Bulk (d : Draft) : List SheetFunction → Draft × Option Duplicate → Prop where
  | whole (fs : List SheetFunction) (e : Draft)
      (hfs : d.attemptEach fs = (e, List.replicate fs.length none))
      (hentries : e.entries = d.entries ++ entriesOf fs) : Bulk d fs (e, none)
  | upTo (before after : List SheetFunction) (f : SheetFunction) (e : Draft)
      (hbefore : d.attemptEach before = (e, List.replicate before.length none))
      (hentries : e.entries = d.entries ++ entriesOf before)
      (hf : e.register f = (e, some f.duplicate)) :
      Bulk d (before ++ f :: after) (e, some f.duplicate)

theorem Bulk.cons {d : Draft} {f : SheetFunction} {fs : List SheetFunction}
    {r : Draft × Option Duplicate} (hf : d.register f = (⟨d.entries ++ [f.entry]⟩, none))
    (h : Bulk ⟨d.entries ++ [f.entry]⟩ fs r) : Bulk d (f :: fs) r := by
  have hrun : ∀ (calls : List SheetFunction) (e : Draft),
      (Draft.mk (d.entries ++ [f.entry])).attemptEach calls =
          (e, List.replicate calls.length none) →
        d.attemptEach (f :: calls) = (e, List.replicate (f :: calls).length none) := by
    intro calls e hcalls
    rw [attemptEach, hf, hcalls]
    rfl
  cases h with
  | whole fs e hfs hentries =>
    exact Bulk.whole (f :: fs) e (hrun fs e hfs) (hentries.trans (List.append_cons ..).symm)
  | upTo before after g e hbefore hentries hg =>
    exact Bulk.upTo (f :: before) after g e (hrun before e hbefore)
      (hentries.trans (List.append_cons ..).symm) hg

theorem bulk_registerAll (d : Draft) (fs : List SheetFunction) : Bulk d fs (d.registerAll fs) := by
  induction fs generalizing d with
  | nil => exact Bulk.whole [] d rfl (List.append_nil d.entries).symm
  | cons f fs ih =>
    rcases d.register_cases f with ⟨-, hrefused⟩ | ⟨-, haccepted⟩
    · rw [registerAll, hrefused]
      exact Bulk.upTo [] fs f d rfl (List.append_nil d.entries).symm hrefused
    · rw [registerAll, haccepted]
      exact Bulk.cons haccepted (ih ⟨d.entries ++ [f.entry]⟩)

end Draft

/-! ### The catalogue -/

theorem Catalogue.perm_names (c : Catalogue) : c.names.Perm (c.entries.map (·.2.name)) :=
  List.mergeSort_perm _ _

theorem Catalogue.pairwise_names (c : Catalogue) : c.names.Pairwise (· ≤ ·) := by
  have hsorted : c.names.Pairwise fun s t ↦ decide (s ≤ t) = true :=
    List.pairwise_mergeSort (by simpa using fun s t u ↦ String.le_trans)
      (by simpa using String.le_total) (c.entries.map (·.2.name))
  exact hsorted.imp of_decide_eq_true

/-- What a draft and its catalogue owe to the functions that have been registered. -/
structure Registry (d : Draft) (registered : List SheetFunction) : Prop where
  refused_iff : ∀ f duplicate, (d.register f).2 = some duplicate ↔
    duplicate = ⟨f.namespaceName, f.name⟩ ∧ ∃ g ∈ registered, g.AnswersTo f.namespaceName f.name
  unchanged : ∀ f, (d.register f).2 ≠ none → (d.register f).1 = d
  find?_eq_some_iff : ∀ namespaceName name f, d.freeze.find? namespaceName name = some f ↔
    f ∈ registered ∧ f.AnswersTo namespaceName name
  find?_eq_none_iff : ∀ namespaceName name, d.freeze.find? namespaceName name = none ↔
    ∀ g ∈ registered, ¬ g.AnswersTo namespaceName name
  size : d.freeze.size = registered.length
  perm_names : d.freeze.names.Perm (registered.map (·.name))
  pairwise_names : d.freeze.names.Pairwise (· ≤ ·)
  bulk : ∀ fs, d.Bulk fs (d.registerAll fs)

theorem registry_of_entries {d : Draft} {registered : List SheetFunction}
    (hd : KeysDistinct d.entries) (hentries : d.entries = entriesOf registered) :
    Registry d registered where
  refused_iff f duplicate := by
    rw [← exists_entry_iff, ← hentries]
    rcases d.register_cases f with ⟨hmem, hrefused⟩ | ⟨hfresh, haccepted⟩
    · rw [hrefused, Option.some.injEq, eq_comm]
      exact (and_iff_left hmem).symm
    · rw [haccepted]
      constructor
      · intro h
        cases h
      · rintro ⟨-, hmem⟩
        exact absurd hmem hfresh
  unchanged f hf := by
    rcases d.register_cases f with ⟨-, hrefused⟩ | ⟨-, haccepted⟩
    · rw [hrefused]
    · rw [haccepted] at hf
      exact absurd rfl hf
  find?_eq_some_iff namespaceName name f := by
    rw [← mem_entriesOf_iff, ← hentries]
    exact lookup_eq_some_iff_mem hd _ f
  find?_eq_none_iff namespaceName name := by
    have hfind : d.freeze.find? namespaceName name = none ↔ _ :=
      lookup_eq_none_iff_not_mem d.entries (.of namespaceName name)
    rw [hfind, hentries, exists_entry_iff]
    simp only [not_exists, not_and]
  size := by
    change d.entries.length = _
    rw [hentries, entriesOf, List.length_map]
  perm_names := by
    have hnames : d.entries.map (·.2.name) = registered.map (·.name) := by
      rw [hentries, entriesOf, List.map_map]
      rfl
    exact hnames ▸ d.freeze.perm_names
  pairwise_names := d.freeze.pairwise_names
  bulk := d.bulk_registerAll

/-- What the answers owe to the calls: one for each, and a duplicate names the function of its own
call and tells that an earlier call registered a function of the same namespace and name. -/
structure Answers (calls : List SheetFunction) (answers : List (Option Duplicate)) : Prop where
  length : answers.length = calls.length
  duplicate_iff : ∀ before f after, calls = before ++ f :: after → ∀ duplicate,
    answers[before.length]? = some (some duplicate) ↔
      duplicate = ⟨f.namespaceName, f.name⟩ ∧
        ∃ g ∈ Draft.accepted before answers, g.AnswersTo f.namespaceName f.name

theorem accepted_append_answers {before : List SheetFunction} {answers : List (Option Duplicate)}
    (h : answers.length = before.length) (more : List (Option Duplicate)) :
    Draft.accepted before (answers ++ more) = Draft.accepted before answers := by
  have hzip : before.zip (answers ++ more) = before.zip answers := by
    have happend : (before ++ []).zip (answers ++ more) = before.zip answers ++ [].zip more :=
      List.zip_append h.symm
    rwa [List.append_nil, List.zip_nil_left, List.append_nil] at happend
  rw [Draft.accepted, Draft.accepted, hzip]

theorem registry_after (calls : List SheetFunction) :
    Registry (({} : Draft).attemptEach calls).1
      (Draft.accepted calls (({} : Draft).attemptEach calls).2) :=
  registry_of_entries (Draft.keysDistinct_attemptEach List.Pairwise.nil calls)
    (Draft.entries_attemptEach {} calls)

theorem answers_attemptEach (calls : List SheetFunction) :
    Answers calls (({} : Draft).attemptEach calls).2 where
  length := Draft.length_answers {} calls
  duplicate_iff before f after hcalls duplicate := by
    have hlength := Draft.length_answers {} before
    -- The call finds the draft that the calls before it have left.
    rw [hcalls, Draft.attemptEach_append]
    dsimp only
    rw [accepted_append_answers hlength, List.getElem?_append_right (Nat.le_of_eq hlength), hlength,
      Nat.sub_self, Draft.attemptEach, List.getElem?_cons_zero, Option.some.injEq]
    exact (registry_after before).refused_iff f duplicate

/-- A run of calls on an empty draft, each on what the calls before it left. -/
theorem answers_and_registry_attemptEach (calls : List SheetFunction) :
    Answers calls (({} : Draft).attemptEach calls).2 ∧
      Registry (({} : Draft).attemptEach calls).1
        (Draft.accepted calls (({} : Draft).attemptEach calls).2) :=
  ⟨answers_attemptEach calls, registry_after calls⟩

end Worksheet
