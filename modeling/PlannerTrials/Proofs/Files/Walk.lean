import PlannerTrials.Proofs.Files.Names
import Mathlib.Data.List.Induction

/-!
# Walking in a plain tree

In a file tree without links and devices in which every entry stands in a folder (`FileTree.IsPlain`)
names lead where they say.  A walk that succeeds ends at the place of the names (`IsPlain.walked`), and a
file at that place is found by a walk (`IsPlain.walk_of_file`).

A tree stays plain when a file or a folder is put into a folder, as long as no folder is replaced by
a file, and when a file is taken away.
-/

namespace PlannerTrials
namespace Files
namespace FileTree

/-! ## What stands where -/

section Entries

variable {t : FileTree} {place other : Location} {entry : Entry}

theorem lookup_filter {entries : List (Location × Entry)} (keep : Location → Bool)
    (h : keep place = true) :
    (entries.filter fun e => keep e.1).lookup place = entries.lookup place := by
  induction entries with
  | nil => rfl
  | cons e entries ih =>
    rw [List.filter_cons, List.lookup_cons]
    split
    · rw [List.lookup_cons, ih]
    · next hkeep =>
      have hne : (place == e.1) = false := by
        rw [beq_eq_false_iff_ne]
        rintro rfl
        exact hkeep h
      rw [hne, ih]

theorem get?_of_ne_nil (h : place ≠ []) : t.get? place = t.entries.lookup place := by
  cases place with
  | nil => exact absurd rfl h
  | cons name names => rfl

theorem get?_erase (h : place ≠ []) : (t.erase place).get? place = none := by
  rw [get?_of_ne_nil h, List.lookup_eq_none_iff]
  intro e he
  rw [bne_iff_ne]
  rintro rfl
  exact absurd rfl (of_decide_eq_true (List.mem_filter.mp he).2)

theorem get?_erase_of_ne (h : other ≠ place) : (t.erase place).get? other = t.get? other := by
  cases other with
  | nil => rfl
  | cons name names =>
    exact lookup_filter (fun l => decide (l ≠ place)) (decide_eq_true h)

theorem get?_put (h : place ≠ []) : (t.put place entry).get? place = some entry := by
  have herased := get?_erase (t := t) h
  rw [get?_of_ne_nil h] at herased ⊢
  rw [put, List.lookup_append, herased, List.lookup_cons_self]
  rfl

theorem get?_put_of_ne (h : other ≠ place) : (t.put place entry).get? other = t.get? other := by
  have herased := get?_erase_of_ne (t := t) h
  cases other with
  | nil => rfl
  | cons name names =>
    have hne : ((name :: names) == place) = false := beq_eq_false_iff_ne.mpr h
    rw [get?_of_ne_nil (List.cons_ne_nil _ _)] at herased ⊢
    rw [put, List.lookup_append, List.lookup_cons, hne, List.lookup_nil, Option.or_none, herased]

end Entries

/-! ## Plain trees -/

/-- A tree of files and folders, each of them in a folder. -/
structure IsPlain (t : FileTree) : Prop where
  kind : ∀ {place entry}, t.get? place = some entry →
    entry = .folder ∨ ∃ content, entry = .file content
  above : ∀ {place name entry}, t.get? (place ++ [name]) = some entry →
    t.get? place = some .folder
  working : t.get? t.workingFolder = some .folder

/-- A tree whose entries are files and folders, each of them in a folder. -/
theorem isPlain_of_entries {t : FileTree}
    (hkind : ∀ e ∈ t.entries, e.2 = .folder ∨ ∃ content, e.2 = .file content)
    (habove : ∀ e ∈ t.entries, t.get? e.1.dropLast = some .folder)
    (hworking : t.get? t.workingFolder = some .folder) : t.IsPlain := by
  have hmem : ∀ {place entry}, place ≠ [] → t.get? place = some entry → (place, entry) ∈ t.entries := by
    intro place entry hne hentry
    rw [get?_of_ne_nil hne] at hentry
    obtain ⟨before, after, heq, -⟩ := List.lookup_eq_some_iff.mp hentry
    rw [heq]
    exact List.mem_append_right _ List.mem_cons_self
  refine ⟨fun {place entry} hentry => ?_, fun {place name entry} hentry => ?_, hworking⟩
  · by_cases hne : place = []
    · subst hne
      exact .inl (Option.some.inj hentry).symm
    · exact hkind _ (hmem hne hentry)
  · have hfolder := habove _ (hmem (List.concat_ne_nil _ _) hentry)
    rw [List.dropLast_concat] at hfolder
    exact hfolder

section Plain

variable {t : FileTree} (h : t.IsPlain)

include h

/-- The place above a folder is a folder. -/
theorem IsPlain.get?_dropLast {place : Location} (hplace : t.get? place = some .folder) :
    t.get? place.dropLast = some .folder := by
  rcases List.eq_nil_or_concat place with rfl | ⟨above, name, rfl⟩
  · rfl
  · rw [List.concat_eq_append] at hplace ⊢
    rw [List.dropLast_concat]
    exact h.above hplace

/-- All places on the way to an entry are folders. -/
theorem IsPlain.get?_of_append {place : Location} {more : List Name} {entry : Entry}
    (hentry : t.get? (place ++ more) = some entry) (hmore : more ≠ []) :
    t.get? place = some .folder := by
  induction more using List.reverseRecOn generalizing entry with
  | nil => exact absurd rfl hmore
  | append_singleton more name ih =>
    rw [← List.append_assoc] at hentry
    have habove := h.above hentry
    by_cases hnil : more = []
    · rw [hnil, List.append_nil] at habove
      exact habove
    · exact ih habove hnil

/-- Putting a file or a folder in a folder. -/
theorem IsPlain.put {folder : Location} {name : Name} {entry : Entry}
    (hfolder : t.get? folder = some .folder)
    (hentry : entry = .folder ∨
      (∃ content, entry = .file content) ∧ t.get? (folder ++ [name]) ≠ some .folder) :
    (t.put (folder ++ [name]) entry).IsPlain := by
  have hne : folder ++ [name] ≠ [] := List.concat_ne_nil _ _
  -- A folder stays a folder: only the new entry could be another one, and then none was there.
  have hkept : ∀ {place}, t.get? place = some .folder →
      (t.put (folder ++ [name]) entry).get? place = some .folder := by
    intro place hplace
    by_cases heq : place = folder ++ [name]
    · subst heq
      rw [get?_put hne]
      rcases hentry with rfl | ⟨-, hnone⟩
      · rfl
      · exact absurd hplace hnone
    · rw [get?_put_of_ne heq, hplace]
  refine ⟨?_, ?_, hkept h.working⟩
  · intro place found hfound
    by_cases heq : place = folder ++ [name]
    · subst heq
      rw [get?_put hne] at hfound
      obtain rfl := Option.some.inj hfound
      exact hentry.imp_right And.left
    · rw [get?_put_of_ne heq] at hfound
      exact h.kind hfound
  · intro place last found hfound
    by_cases heq : place ++ [last] = folder ++ [name]
    · obtain ⟨rfl, -⟩ := List.append_inj' heq rfl
      exact hkept hfolder
    · rw [get?_put_of_ne heq] at hfound
      exact hkept (h.above hfound)

/-- Putting a file where no folder is. -/
theorem IsPlain.put_file {place : Location} {content : Bytes}
    (habove : t.get? place.dropLast = some .folder) (hplace : t.get? place ≠ some .folder) :
    (t.put place (.file content)).IsPlain ∧ place ≠ [] := by
  rcases List.eq_nil_or_concat place with rfl | ⟨folder, name, rfl⟩
  · exact absurd rfl hplace
  · rw [List.concat_eq_append] at habove hplace ⊢
    rw [List.dropLast_concat] at habove
    exact ⟨h.put habove (.inr ⟨⟨content, rfl⟩, hplace⟩), List.concat_ne_nil _ _⟩

/-- A path starts in a folder. -/
theorem IsPlain.get?_startOf (path : String) :
    t.get? (startOf t.workingFolder path) = some .folder := by
  unfold startOf
  split
  · rfl
  · exact h.working

/-- Taking a file away. -/
theorem IsPlain.erase {place : Location} {content : Bytes}
    (hplace : t.get? place = some (.file content)) : (t.erase place).IsPlain := by
  have hkept : ∀ {other}, t.get? other = some .folder →
      (t.erase place).get? other = some .folder := by
    intro other hother
    rw [get?_erase_of_ne, hother]
    rintro rfl
    rw [hother] at hplace
    cases hplace
  have hne : place ≠ [] := by
    rintro rfl
    cases hplace
  have hfound : ∀ {other entry}, (t.erase place).get? other = some entry →
      t.get? other = some entry := by
    intro other entry hother
    rw [← hother, get?_erase_of_ne]
    rintro rfl
    rw [get?_erase hne] at hother
    cases hother
  exact ⟨fun hother => h.kind (hfound hother), fun hother => hkept (h.above (hfound hother)),
    hkept h.working⟩

end Plain

/-! ## Walking -/

/-- Where a walk along names ends in a plain tree. -/
structure Walked (t : FileTree) (here : Location) (names : List Name) (spot : Spot) : Prop where
  location : spot.location = here ++ passed names
  entry : spot.entry = t.get? spot.location
  above : t.get? spot.location.dropLast = some .folder
  short : ∀ name ∈ names, name.length ≤ nameLimit

theorem passed_cons {name : Name} (h : name ≠ hereName) (names : List Name) :
    passed (name :: names) = name :: passed names :=
  List.filter_cons_of_pos (by simpa using h)

/-- The last name is passed unless it is a single point. -/
theorem passed_of_getLast? {names : List Name} {last : Name} (hlast : names.getLast? = some last)
    (hne : last ≠ hereName) : passed names = passed names.dropLast ++ [last] := by
  have hnames : names = names.dropLast ++ [last] := (List.dropLast_append_getLast? _ hlast).symm
  have hpassed : passed [last] = [last] := passed_cons hne []
  calc passed names = passed (names.dropLast ++ [last]) := by rw [← hnames]
    _ = passed names.dropLast ++ passed [last] := List.filter_append _ _
    _ = passed names.dropLast ++ [last] := by rw [hpassed]

section Walks

variable {t : FileTree} (h : t.IsPlain) {follow folderOnly : Bool} {links : Nat} {here : Location}
  {names : List Name} {spot : Spot}

include h

/-- **A walk that succeeds ends at the place of the names.** -/
theorem IsPlain.walked (hhere : t.get? here = some .folder) (hup : upName ∉ names)
    (hwalk : t.walk follow folderOnly links here names = .ok spot) :
    t.Walked here names spot := by
  induction names generalizing here with
  | nil =>
    rw [walk] at hwalk
    obtain rfl := Except.ok.inj hwalk
    exact ⟨(List.append_nil here).symm, hhere.symm, h.get?_dropLast hhere, List.forall_mem_nil _⟩
  | cons name rest ih =>
    rw [List.mem_cons, not_or] at hup
    rw [walk] at hwalk
    split at hwalk
    · next hpoint =>
      subst hpoint
      obtain ⟨hlocation, hentry, habove, hshort⟩ := ih hhere hup.2 hwalk
      refine ⟨hlocation, hentry, habove, List.forall_mem_cons.mpr ⟨by decide, hshort⟩⟩
    · next hpoint =>
      rw [if_neg (Ne.symm hup.1)] at hwalk
      split at hwalk
      · cases hwalk
      · next hlong =>
        have hlength : name.length ≤ nameLimit := Nat.le_of_not_lt hlong
        simp only at hwalk
        -- Only a folder is walked through; anything else has to be the last name.
        have hend : ∀ {found folderOnly}, t.get? (here ++ [name]) = found → rest = [] →
            spot = ⟨here ++ [name], found, folderOnly⟩ → t.Walked here (name :: rest) spot := by
          rintro found folderOnly rfl rfl rfl
          refine ⟨?_, rfl, ?_, List.forall_mem_cons.mpr ⟨hlength, List.forall_mem_nil _⟩⟩
          · rw [passed_cons hpoint]
            rfl
          · rw [List.dropLast_concat]
            exact hhere
        cases hget : t.get? (here ++ [name]) with
        | none =>
          rw [hget] at hwalk
          simp only at hwalk
          split at hwalk
          · next hrest => exact hend hget hrest (Except.ok.inj hwalk).symm
          · cases hwalk
        | some entry =>
          rcases h.kind hget with rfl | ⟨content, rfl⟩
          · rw [hget] at hwalk
            obtain ⟨hlocation, hentry, habove, hshort⟩ := ih hget hup.2 hwalk
            refine ⟨?_, hentry, habove, List.forall_mem_cons.mpr ⟨hlength, hshort⟩⟩
            rw [hlocation, passed_cons hpoint, List.append_assoc]
            rfl
          · rw [hget] at hwalk
            simp only at hwalk
            split at hwalk
            · next hrest => exact hend hget hrest.1 (Except.ok.inj hwalk).symm
            · cases hwalk

/-- **A file at the place of the names is found by a walk.** -/
theorem IsPlain.walk_of_file {content : Bytes} (hup : upName ∉ names)
    (hshort : ∀ name ∈ names, name.length ≤ nameLimit)
    (hlast : ∃ last, names.getLast? = some last ∧ last ≠ hereName)
    (hfile : t.get? (here ++ passed names) = some (.file content)) :
    t.walk follow false links here names =
      .ok ⟨here ++ passed names, some (.file content), false⟩ := by
  induction names generalizing here with
  | nil =>
    obtain ⟨last, hnone, -⟩ := hlast
    cases hnone
  | cons name rest ih =>
    rw [List.mem_cons, not_or] at hup
    have hrestShort := fun n hn => hshort n (List.mem_cons_of_mem _ hn)
    have hrestLast : rest ≠ [] → ∃ last, rest.getLast? = some last ∧ last ≠ hereName := by
      intro hrest
      obtain ⟨next, more, rfl⟩ := List.exists_cons_of_ne_nil hrest
      rw [List.getLast?_cons_cons] at hlast
      exact hlast
    rw [walk]
    split
    · next hpoint =>
      subst hpoint
      refine ih hup.2 hrestShort (hrestLast ?_) hfile
      rintro rfl
      obtain ⟨last, hsome, hne⟩ := hlast
      exact hne (Option.some.inj hsome).symm
    · next hpoint =>
      have hlength := hshort name List.mem_cons_self
      rw [if_neg (Ne.symm hup.1), if_neg (Nat.not_lt.mpr hlength)]
      have hplace : here ++ passed (name :: rest) = here ++ [name] ++ passed rest := by
        rw [passed_cons hpoint, List.append_cons]
      rw [hplace] at hfile ⊢
      by_cases hrest : rest = []
      · subst hrest
        rw [passed, List.filter_nil, List.append_nil] at hfile ⊢
        simp only [hfile, and_self, Bool.false_eq_true, not_false_eq_true, ↓reduceIte]
      · have hpassed : passed rest ≠ [] := by
          obtain ⟨last, hsome, hne⟩ := hrestLast hrest
          intro hnil
          have hmem := List.mem_of_getLast? hsome
          exact hne (by simpa using List.filter_eq_nil_iff.mp hnil last hmem)
        have hfolder := h.get?_of_append hfile hpassed
        simp only [hfolder]
        exact ih hup.2 hrestShort (hrestLast hrest) hfile

end Walks

end FileTree
end Files
end PlannerTrials
