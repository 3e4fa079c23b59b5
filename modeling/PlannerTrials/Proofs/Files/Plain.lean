import PlannerTrials.Files.Disk
import PlannerTrials.Proofs.Path.Steps
import PlannerTrials.Proofs.Text.Utf8

/-!
# Disks of plain files and folders

What a program may rely on where a disk holds files and folders and nothing else: no links, so that a path
says by itself where it leads, and no devices.  The states of the disk are not opened.  A `Sight` says
what stands at each place in a state, and `Disk.Plain` says what the operations do to that.

Any operation may fail, and what a failing one leaves behind differs.  Folders that have been made stay
(`MadeFolders` describes a success and a failure alike), a file that could not be written
holds anything, and a file that could not be renamed is where it was.

A path leads to a place only if it does not go up: what `a/../b` is depends on whether there is an `a`.
The operations promise nothing about other paths.
-/

namespace PlannerTrials
namespace Files

open PlannerTrials.Path (Component components fileName?)

/-! ## Places -/

/-- Where a step leads from a place. -/
def stepFrom (here : Location) : Component → Location
  | .root => []
  | .here => here
  | .up => here.dropLast
  | .name n => here ++ [Utf8.encode n]

/-- Where a path leads from the working folder: the names from the root, one for each component. -/
def placeFrom (working : Location) (path : String) : Location :=
  (components path).foldl stepFrom working

/-- A path that does not go up. -/
def IsStraight (path : String) : Prop := .up ∉ components path

instance (path : String) : Decidable (IsStraight path) := inferInstanceAs (Decidable (_ ∉ _))

section Places

variable {working : Location} {path parent name other : String}

/-- The place of a path with a last name is in the place above it. -/
theorem placeFrom_of_fileName? (h : fileName? path = some name) :
    placeFrom working path =
      (placeFrom working path).dropLast ++ [Utf8.encodeString name] := by
  rw [placeFrom, Path.components_of_fileName? h, List.foldl_concat]
  simp only [stepFrom, List.dropLast_concat]
  rfl

/-- The path above leads to the place above. -/
theorem placeFrom_parent? (h : fileName? path = some name) (hparent : Path.parent? path = some parent) :
    placeFrom working parent = (placeFrom working path).dropLast := by
  rw [placeFrom, placeFrom, Path.components_of_fileName? h, List.foldl_concat,
    Path.components_parent? hparent]
  exact List.dropLast_concat.symm

/-- Another last name leads to the place beside. -/
theorem placeFrom_withFileName (h : fileName? path = some name) (hother : Path.IsName other.toList) :
    placeFrom working (Path.withFileName path other) =
      (placeFrom working path).dropLast ++ [Utf8.encodeString other] := by
  rw [placeFrom, Path.components_withFileName h hother, List.foldl_concat, placeFrom,
    Path.components_of_fileName? h, List.foldl_concat, List.dropLast_concat]
  simp only [stepFrom, List.dropLast_concat]
  rfl

theorem IsStraight.parent? (h : IsStraight path) (hparent : Path.parent? path = some parent) :
    IsStraight parent := by
  unfold IsStraight
  rw [Path.components_parent? hparent]
  exact fun hup => h (List.dropLast_subset _ hup)

theorem IsStraight.withFileName (h : IsStraight path) (hname : fileName? path = some name)
    (hother : Path.IsName other.toList) : IsStraight (Path.withFileName path other) := by
  unfold IsStraight
  rw [Path.components_withFileName hname hother, List.mem_append, not_or]
  exact ⟨fun hup => h (List.dropLast_subset _ hup), by simp⟩

/-- The path above a straight path leads to a place above it. -/
theorem IsStraight.placeFrom_parent?_isPrefix (h : IsStraight path)
    (hparent : Path.parent? path = some parent) :
    placeFrom working parent <+: placeFrom working path := by
  obtain ⟨step, hstep, hroot⟩ := Path.exists_step_of_parent? hparent
  rw [placeFrom, placeFrom, hstep, List.foldl_concat]
  cases step with
  | root => exact absurd rfl hroot
  | here => exact List.prefix_rfl
  | up => exact absurd (hstep ▸ List.mem_concat_self) h
  | name n => exact List.prefix_append _ _

theorem isName_append_tmp (h : fileName? path = some name) :
    Path.IsName (name ++ ".tmp").toList := by
  rw [String.toList_append]
  exact (Path.isName_of_fileName? h).append (by decide) ⟨'t', by decide, by decide⟩

end Places

/-! ## What the operations promise -/

/-- How the states of a disk are seen. -/
structure Sight (σ : Type) where
  /-- The folder in which relative paths start. -/
  working : Location
  /-- What stands at a place. -/
  entry? : σ → Location → Option Entry
  /-- The states with files and folders only, each of them in a folder. -/
  Sound : σ → Prop
  /-- The paths that can mean a file, as one that ends with a slash cannot. -/
  NamesFile : String → Prop

namespace Sight

variable {σ : Type} (sight : Sight σ)

/-- Where a path leads. -/
def placeOf (path : String) : Location := placeFrom sight.working path

/-- A place is as it was, unless it is one of the folders down to a given one that was missing and has
been made. -/
def AsBefore (folder : Location) (s s' : σ) (place : Location) : Prop :=
  sight.entry? s' place = sight.entry? s place ∨
    place <+: folder ∧ sight.entry? s place = none ∧ sight.entry? s' place = some .folder

/-- A file has been given another place. -/
structure Moved (source target : Location) (content : Bytes) (s s' : σ) : Prop where
  there : sight.entry? s' target = some (.file content)
  gone : sight.entry? s' source = none
  others : ∀ place, place ≠ source → place ≠ target →
    sight.entry? s' place = sight.entry? s place

variable {sight} {folder place : Location} {s s' s'' : σ}

theorem AsBefore.refl : sight.AsBefore folder s s place := .inl rfl

theorem AsBefore.mono {below : Location} (h : sight.AsBefore folder s s' place)
    (hbelow : folder <+: below) : sight.AsBefore below s s' place := by
  rcases h with h | ⟨hfirst, h⟩
  · exact .inl h
  · exact .inr ⟨hfirst.trans hbelow, h⟩

/-- What does not touch a place later does not matter there. -/
theorem AsBefore.of_eq (h : sight.AsBefore folder s s' place)
    (heq : sight.entry? s'' place = sight.entry? s' place) : sight.AsBefore folder s s'' place := by
  unfold AsBefore
  rw [heq]
  exact h

theorem AsBefore.trans (h : sight.AsBefore folder s s' place)
    (h' : sight.AsBefore folder s' s'' place) : sight.AsBefore folder s s'' place := by
  rcases h' with h' | ⟨hfirst, hnone, hmade⟩
  · exact h.of_eq h'
  · rcases h with h | ⟨-, -, hthere⟩
    · exact .inr ⟨hfirst, h ▸ hnone, hmade⟩
    · rw [hthere] at hnone
      cases hnone

/-- A place that is not above the folder is as it was. -/
theorem AsBefore.eq (h : sight.AsBefore folder s s' place) (hfolder : ¬place <+: folder) :
    sight.entry? s' place = sight.entry? s place := by
  rcases h with h | ⟨hfirst, -⟩
  · exact h
  · exact absurd hfirst hfolder

end Sight

/-- A disk of plain files and folders, each operation of which may fail. -/
structure Disk.Plain {σ : Type} (disk : Disk σ) (sight : Sight σ) : Prop where
  /-- Folders are made down to the one at the path, or only some of them. -/
  makeFolders : ∀ {path s}, sight.Sound s → IsStraight path →
    sight.Sound (disk.makeFolders path s).2 ∧
      ∀ place, sight.AsBefore (sight.placeOf path) s (disk.makeFolders path s).2 place
  /-- A write, also one that fails, touches no place but its own. -/
  write : ∀ {path s} (content : Bytes), sight.Sound s → IsStraight path →
    sight.Sound (disk.write path content s).2 ∧
      ∀ place, place ≠ sight.placeOf path →
        sight.entry? (disk.write path content s).2 place = sight.entry? s place
  /-- A file that has been written is there with its content. -/
  write_ok : ∀ {path content s s'}, sight.Sound s → IsStraight path →
    disk.write path content s = (.ok (), s') →
      sight.entry? s' (sight.placeOf path) = some (.file content)
  /-- Renaming keeps the states sound. -/
  rename : ∀ {source target s}, sight.Sound s → IsStraight source → IsStraight target →
    sight.Sound (disk.rename source target s).2
  /-- Renaming happens as a whole or not at all. -/
  rename_error : ∀ {source target s s' fault}, sight.Sound s → IsStraight source →
    IsStraight target → disk.rename source target s = (.error fault, s') →
      ∀ place, sight.entry? s' place = sight.entry? s place
  /-- Renaming gives a file another place, and only to a path that can mean a file. -/
  rename_ok : ∀ {source target content s s'}, sight.Sound s → IsStraight source →
    IsStraight target → sight.placeOf source ≠ sight.placeOf target →
    sight.entry? s (sight.placeOf source) = some (.file content) →
    disk.rename source target s = (.ok (), s') →
      sight.Moved (sight.placeOf source) (sight.placeOf target) content s s' ∧
        sight.NamesFile target
  /-- A file can be read. -/
  read : ∀ {path content s}, sight.Sound s → IsStraight path → sight.NamesFile path →
    sight.entry? s (sight.placeOf path) = some (.file content) → disk.read path s = .ok content

/-! ## Failing operations -/

/-- What goes wrong in an operation that fails. -/
structure Trouble where
  fault : Fault
  /-- How many folders at the end of a path are not made any more. -/
  unmade : Nat
  /-- What a write leaves in the file. -/
  left : Bytes

/-- The path a number of steps above a path. -/
def ancestor? : Nat → String → Option String
  | 0, path => some path
  | n + 1, path => (Path.parent? path).bind (ancestor? n)

/-- A disk on which the next changes fail as told by a list of troubles, with `none` for one that
goes as it does on the given disk. -/
def Disk.troubled {σ : Type} (disk : Disk σ) : Disk (σ × List (Option Trouble)) where
  read path s := disk.read path s.1
  makeFolders path s :=
    match s.2.headD none with
    | none => ((disk.makeFolders path s.1).1, (disk.makeFolders path s.1).2, s.2.tail)
    | some trouble =>
      match ancestor? trouble.unmade path with
      | none => (.error trouble.fault, s.1, s.2.tail)
      | some ancestor => (.error trouble.fault, (disk.makeFolders ancestor s.1).2, s.2.tail)
  write path content s :=
    match s.2.headD none with
    | none => ((disk.write path content s.1).1, (disk.write path content s.1).2, s.2.tail)
    | some trouble => (.error trouble.fault, (disk.write path trouble.left s.1).2, s.2.tail)
  rename source target s :=
    match s.2.headD none with
    | none => ((disk.rename source target s.1).1, (disk.rename source target s.1).2, s.2.tail)
    | some trouble => (.error trouble.fault, s.1, s.2.tail)

/-- What stands on a disk does not depend on the troubles to come. -/
def Sight.troubled {σ : Type} (sight : Sight σ) : Sight (σ × List (Option Trouble)) where
  working := sight.working
  entry? s := sight.entry? s.1
  Sound s := sight.Sound s.1
  NamesFile := sight.NamesFile

/-- The paths above a straight path are straight and lead to places above it. -/
theorem IsStraight.ancestor? {n : Nat} {path ancestor : String} (h : IsStraight path)
    (hancestor : Files.ancestor? n path = some ancestor) (working : Location) :
    IsStraight ancestor ∧ placeFrom working ancestor <+: placeFrom working path := by
  induction n generalizing path with
  | zero =>
    obtain rfl := Option.some.inj hancestor
    exact ⟨h, List.prefix_rfl⟩
  | succ n ih =>
    obtain ⟨parent, hparent, hancestor⟩ := Option.bind_eq_some_iff.mp hancestor
    obtain ⟨hstraight, hplace⟩ := ih (h.parent? hparent) hancestor
    exact ⟨hstraight, hplace.trans (h.placeFrom_parent?_isPrefix hparent)⟩

/-- **A plain disk stays plain in trouble.** -/
theorem Disk.Plain.troubled {σ : Type} {disk : Disk σ} {sight : Sight σ} (h : disk.Plain sight) :
    disk.troubled.Plain sight.troubled where
  makeFolders := by
    intro path s hs hpath
    simp only [Disk.troubled]
    split
    · exact h.makeFolders hs hpath
    · next trouble _ =>
      split
      · exact ⟨hs, fun _ => .refl⟩
      · next ancestor hancestor =>
        obtain ⟨hstraight, hplace⟩ := hpath.ancestor? hancestor sight.working
        obtain ⟨hsound, hbefore⟩ := h.makeFolders hs hstraight
        exact ⟨hsound, fun place => (hbefore place).mono hplace⟩
  write := by
    intro path s content hs hpath
    simp only [Disk.troubled]
    split
    · exact h.write content hs hpath
    · next trouble _ => exact h.write trouble.left hs hpath
  write_ok := by
    intro path content s s' hs hpath hwrite
    simp only [Disk.troubled] at hwrite
    split at hwrite
    · obtain ⟨hresult, rfl⟩ := Prod.mk.inj hwrite
      exact h.write_ok hs hpath (Prod.ext hresult rfl)
    · cases (Prod.mk.inj hwrite).1
  rename := by
    intro source target s hs hsource htarget
    simp only [Disk.troubled]
    split
    · exact h.rename hs hsource htarget
    · exact hs
  rename_error := by
    intro source target s s' fault hs hsource htarget hrename
    simp only [Disk.troubled] at hrename
    split at hrename
    · obtain ⟨hresult, rfl⟩ := Prod.mk.inj hrename
      exact h.rename_error hs hsource htarget (Prod.ext hresult rfl)
    · obtain ⟨-, rfl⟩ := Prod.mk.inj hrename
      exact fun _ => rfl
  rename_ok := by
    intro source target content s s' hs hsource htarget hne hcontent hrename
    simp only [Disk.troubled] at hrename
    split at hrename
    · obtain ⟨hresult, rfl⟩ := Prod.mk.inj hrename
      obtain ⟨hmoved, hnames⟩ :=
        h.rename_ok hs hsource htarget hne hcontent (Prod.ext hresult rfl)
      exact ⟨⟨hmoved.there, hmoved.gone, hmoved.others⟩, hnames⟩
    · cases (Prod.mk.inj hrename).1
  read := h.read

end Files
end PlannerTrials
