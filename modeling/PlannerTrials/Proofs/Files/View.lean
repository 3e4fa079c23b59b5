import PlannerTrials.Files.View
import PlannerTrials.Proofs.Path
import PlannerTrials.Proofs.Text.Utf8
import Mathlib.Data.List.Nodup

/-!
# Names that a folder can hold

A file system lists the entries of a folder by their names, which are bytes.  Which bytes they can be is
something about real folders that the search for problems relies on: a name is not empty,
has no slash, and is neither of the two names that stand for a folder itself and for the one above.  If
such a name is text then the text is one step of a path (`IsEntryName.isName`).  A file tree whose locations
are made of such names keeps this promise (`FileTree.proper_view`).

A folder does not hold two entries of one name either, so a name that is found stands for one file.
-/

namespace PlannerTrials
namespace Files

/-- A name that a folder can hold. -/
structure IsEntryName (name : Name) : Prop where
  ne_nil : name ≠ []
  ne_here : name ≠ FileTree.hereName
  ne_up : name ≠ FileTree.upName
  slash_not_mem : FileTree.slash ∉ name

instance (name : Name) : Decidable (IsEntryName name) :=
  decidable_of_iff
    (name ≠ [] ∧ name ≠ FileTree.hereName ∧ name ≠ FileTree.upName ∧ FileTree.slash ∉ name)
    ⟨fun ⟨hnil, hhere, hup, hslash⟩ => ⟨hnil, hhere, hup, hslash⟩,
      fun h => ⟨h.ne_nil, h.ne_here, h.ne_up, h.slash_not_mem⟩⟩

/-- A file system whose folders list names that folders can hold. -/
def FileView.Proper (view : FileView) : Prop :=
  ∀ folder entries, view.list folder = .ok entries → ∀ name ∈ entries, IsEntryName name

/-- A file system whose folders list no name twice. -/
def FileView.Distinct (view : FileView) : Prop :=
  ∀ folder entries, view.list folder = .ok entries → entries.Nodup

/-- The text of a name that a folder can hold is a step of a path. -/
theorem IsEntryName.isName {entry : Name} (h : IsEntryName entry) {name : String}
    (hname : Utf8.decodeString? entry = some name) : Path.IsName name.toList := by
  have hentry : Utf8.encode name.toList = entry := Utf8.encodeString_of_decodeString? hname
  refine ⟨?_, ?_, ?_, ?_⟩
  · intro hnil
    rw [hnil] at hentry
    exact h.ne_nil hentry.symm
  · intro hhere
    rw [hhere] at hentry
    exact h.ne_here hentry.symm
  · intro hup
    rw [hup] at hentry
    exact h.ne_up hentry.symm
  · intro hslash
    have hmem := (Utf8.mem_encode_ascii (n := 0x2f) (by decide) name.toList).mpr hslash
    rw [hentry] at hmem
    exact h.slash_not_mem hmem

/-- What a file tree lists are the names in a folder. -/
theorem FileTree.exists_namesIn_of_list {t : FileTree} {folder : String} {entries : List Name}
    (h : t.view.list folder = .ok entries) : ∃ location, entries = t.namesIn location := by
  have hlist : t.list folder = .ok entries := h
  unfold FileTree.list at hlist
  cases hlook : t.look folder with
  | error fault =>
    rw [hlook] at hlist
    cases hlist
  | ok found =>
    obtain ⟨location, entry⟩ := found
    rw [hlook] at hlist
    cases entry with
    | folder => exact ⟨location, (Except.ok.inj hlist).symm⟩
    | _ => cases hlist

/-- **A file tree lists names that folders can hold** if its locations are made of such names. -/
theorem FileTree.proper_view {t : FileTree}
    (h : ∀ located ∈ t.entries, ∀ name ∈ located.1, IsEntryName name) : t.view.Proper := by
  intro folder entries hentries name hname
  obtain ⟨location, rfl⟩ := FileTree.exists_namesIn_of_list hentries
  obtain ⟨located, hlocated, hlast⟩ := List.mem_filterMap.mp hname
  split at hlast
  · exact h located hlocated name (List.mem_of_getLast? hlast)
  · cases hlast

end Files
end PlannerTrials
