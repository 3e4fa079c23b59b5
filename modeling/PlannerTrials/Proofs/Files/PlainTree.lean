import PlannerTrials.Proofs.Files.Walk

/-!
# The file tree is a plain disk

The operations on a plain file tree do what `Disk.Plain` asks for: `FileTree.plain_disk`.  For each of
them it is said once what a success means for the tree (`makeFolder_eq_ok`, `write_eq_ok`,
`rename_eq_ok`, `read_of_file`), and the disk is made of these.  An operation that fails leaves the tree as it
was, but for folders that have been made before.

A path can mean a file (`NamesFile`) if it is short enough and ends with a name: renaming has seen to that
of its target, and reading needs no more.
-/

namespace PlannerTrials
namespace Files
namespace FileTree

/-! ## What the operations do -/

/-- What the system asks of a path before it walks. -/
structure IsWritten (path : String) : Prop where
  noNul : (Utf8.encodeString path).contains 0 = false
  ne_nil : Utf8.encodeString path ≠ []
  short : (Utf8.encodeString path).length < pathLimit

/-- The paths that can mean a file. -/
structure NamesFile (path : String) : Prop extends IsWritten path where
  names_short : ∀ name ∈ namesOf path, name.length ≤ nameLimit
  last : ∃ last, (namesOf path).getLast? = some last ∧ last ≠ hereName
  not_folder : asksForFolder (Utf8.encodeString path) = false

/-- Where the last name of a path is. -/
structure Located (t : FileTree) (path : String) (folder : Location) (name : Name)
    (asks : Bool) : Prop extends IsWritten path where
  place : placeFrom t.workingFolder path = folder ++ [name]
  folder_there : t.get? folder = some .folder
  last : (namesOf path).getLast? = some name
  ne_here : name ≠ hereName
  names_short : ∀ name ∈ (namesOf path).dropLast, name.length ≤ nameLimit
  asks_eq : asks = asksForFolder (Utf8.encodeString path)

theorem Located.forall_short {t : FileTree} {path : String} {folder : Location} {name : Name}
    {asks : Bool} (h : t.Located path folder name asks) (hname : name.length ≤ nameLimit) :
    ∀ n ∈ namesOf path, n.length ≤ nameLimit := by
  intro n hn
  rw [← List.dropLast_append_getLast? _ h.last] at hn
  rcases List.mem_append.mp hn with hn | hn
  · exact h.names_short n hn
  · rw [List.mem_singleton.mp hn]
    exact hname

section Operations

variable {t t' : FileTree} (h : t.IsPlain) {path : String} (hpath : IsStraight path)

include h hpath

/-- A path that leads anywhere leads to its place. -/
theorem IsPlain.resolved {follow : Bool} {spot : Spot} (hspot : t.resolve follow path = .ok spot) :
    t.Walked (startOf t.workingFolder path) (namesOf path) spot := by
  unfold resolve resolveBytes at hspot
  split at hspot
  · cases hspot
  · split at hspot
    · cases hspot
    · split at hspot
      · cases hspot
      · exact h.walked (h.get?_startOf path) (upName_not_mem_namesOf hpath) hspot

/-- A file can be read. -/
theorem IsPlain.read_of_file {content : Bytes} (hnames : NamesFile path)
    (hfile : t.get? (placeFrom t.workingFolder path) = some (.file content)) :
    t.read path = .ok content := by
  rw [placeFrom_eq_start_append hpath] at hfile
  have hwalk : t.walk true false linkLimit (startOf t.workingFolder path) (namesOf path) =
      .ok ⟨startOf t.workingFolder path ++ passed (namesOf path), some (.file content), false⟩ :=
    h.walk_of_file (upName_not_mem_namesOf hpath) hnames.names_short hnames.last hfile
  unfold read look resolve resolveBytes
  rw [hnames.noNul, if_neg Bool.false_ne_true, if_neg hnames.ne_nil,
    if_neg (Nat.not_le.mpr hnames.short), hnames.not_folder]
  unfold namesOf startOf at hwalk
  simp only [hwalk]
  rfl

/-- What a write does. -/
theorem IsPlain.write_eq_ok {content : Bytes} (hwrite : t.write path content = .ok t') :
    t'.IsPlain ∧ t' = t.put (placeFrom t.workingFolder path) (.file content) ∧
      placeFrom t.workingFolder path ≠ [] := by
  unfold write at hwrite
  cases hspot : t.resolve true path with
  | error fault =>
    rw [hspot] at hwrite
    cases hwrite
  | ok spot =>
    rw [hspot] at hwrite
    obtain ⟨hlocation, hentry, habove, -⟩ := h.resolved hpath hspot
    rw [← placeFrom_eq_start_append hpath] at hlocation
    rw [hlocation] at hentry habove
    have hput : t.get? (placeFrom t.workingFolder path) ≠ some .folder →
        t.put (placeFrom t.workingFolder path) (.file content) = t' → t'.IsPlain ∧
          t' = t.put (placeFrom t.workingFolder path) (.file content) ∧
            placeFrom t.workingFolder path ≠ [] := by
      rintro hne rfl
      obtain ⟨hplain, hplace⟩ := h.put_file habove hne
      exact ⟨hplain, rfl, hplace⟩
    simp only [bind, Except.bind, hentry, hlocation] at hwrite
    cases hget : t.get? (placeFrom t.workingFolder path) with
    | none =>
      simp only [hget] at hwrite
      split at hwrite
      · cases hwrite
      · exact hput (by simp [hget]) (Except.ok.inj hwrite)
    | some entry =>
      rcases h.kind hget with rfl | ⟨old, rfl⟩
      · simp only [hget] at hwrite
        cases hwrite
      · simp only [hget] at hwrite
        exact hput (by simp [hget]) (Except.ok.inj hwrite)

/-- The last name of a path, in the folder to which the names before it lead. -/
theorem IsPlain.located {folder : Location} {name : Name} {asks : Bool}
    (hlocate : t.locateLast path = .ok (folder, some name, asks)) :
    t.Located path folder name asks := by
  unfold locateLast at hlocate
  simp only [bind, Except.bind] at hlocate
  split at hlocate
  · cases hlocate
  next hnul =>
  split at hlocate
  · cases hlocate
  next hnil =>
  split at hlocate
  · cases hlocate
  next hlong =>
  have hwritten : IsWritten path :=
    ⟨Bool.eq_false_iff.mpr hnul, hnil, Nat.lt_of_not_le hlong⟩
  split at hlocate
  · cases hlocate
  next last hlast =>
  have hlast : (namesOf path).getLast? = some last := hlast
  have hup := upName_not_mem_namesOf hpath
  split at hlocate
  · cases hlocate
  next spot hwalk =>
  obtain ⟨hlocation, hentry, -, hshort⟩ :=
    h.walked (h.get?_startOf path) (fun hmem => hup (List.dropLast_subset _ hmem)) hwalk
  split at hlocate
  · next hfolder =>
    split at hlocate
    · cases hlocate
    · next hname =>
      obtain ⟨hne, -⟩ := not_or.mp hname
      obtain ⟨rfl, hrest⟩ := Prod.mk.inj (Except.ok.inj hlocate)
      obtain ⟨hsome, rfl⟩ := Prod.mk.inj hrest
      obtain rfl := Option.some.inj hsome
      refine ⟨hwritten, ?_, hentry ▸ hfolder, hlast, hne, hshort, rfl⟩
      rw [placeFrom_eq_start_append hpath, hlocation, List.append_assoc,
        ← passed_of_getLast? hlast hne]
  · cases hlocate

/-- Making one folder puts it where nothing was. -/
theorem IsPlain.makeFolder_eq_ok (hmake : t.makeFolder path = .ok t') :
    t'.IsPlain ∧ t' = t.put (placeFrom t.workingFolder path) .folder ∧
      placeFrom t.workingFolder path ≠ [] ∧ t.get? (placeFrom t.workingFolder path) = none := by
  unfold makeFolder at hmake
  simp only [bind, Except.bind] at hmake
  split at hmake
  · cases hmake
  next folder found hlocate =>
  split at hmake
  · cases hmake
  next folder name asks =>
  split at hmake
  · cases hmake
  split at hmake
  · cases hmake
  next hnone =>
  obtain rfl := Except.ok.inj hmake
  have hlocated := h.located hpath hlocate
  rw [hlocated.place]
  exact ⟨h.put hlocated.folder_there (.inl rfl), rfl, List.concat_ne_nil _ _, by simpa using hnone⟩

/-- What renaming does to a file. -/
theorem IsPlain.rename_eq_ok {target : String} (htarget : IsStraight target)
    (hrename : t.rename path target = .ok t') :
    t'.IsPlain ∧ NamesFile target ∧ placeFrom t.workingFolder path ≠ [] ∧
      placeFrom t.workingFolder target ≠ [] ∧
      ∃ entry, t.get? (placeFrom t.workingFolder path) = some entry ∧
        t' = (t.erase (placeFrom t.workingFolder path)).put (placeFrom t.workingFolder target)
          entry := by
  unfold rename at hrename
  simp only [bind, Except.bind] at hrename
  split at hrename
  · cases hrename
  next source hsource =>
  obtain ⟨folder, name?, asks⟩ := source
  split at hrename
  · cases hrename
  next located hlocate =>
  obtain ⟨folder', name'?, asks'⟩ := located
  simp only at hrename
  split at hrename
  · next name name' =>
    split at hrename
    · cases hrename
    split at hrename
    · cases hrename
    · cases hrename
    next entry hnot hentry =>
    split at hrename
    · cases hrename
    next hlong =>
    split at hrename
    · cases hrename
    next hasks =>
    split at hrename
    · cases hrename
    next hfree =>
    obtain rfl := Except.ok.inj hrename
    have hsource := h.located hpath hsource
    have htarget := h.located htarget hlocate
    rcases h.kind hentry with rfl | ⟨content, rfl⟩
    · exact absurd rfl hnot
    have hfolder : (t.erase (folder ++ [name])).get? folder' = some .folder := by
      rw [get?_erase_of_ne, htarget.folder_there]
      rintro rfl
      rw [htarget.folder_there] at hentry
      cases hentry
    have hplace : (t.erase (folder ++ [name])).get? (folder' ++ [name']) ≠ some .folder := by
      by_cases heq : folder' ++ [name'] = folder ++ [name]
      · rw [heq, get?_erase (List.concat_ne_nil _ _)]
        exact nofun
      · rw [get?_erase_of_ne heq]
        exact hfree
    have hnames : NamesFile target :=
      ⟨htarget.toIsWritten, htarget.forall_short (Nat.le_of_not_lt hlong), ⟨name', htarget.last,
        htarget.ne_here⟩, htarget.asks_eq ▸ Bool.eq_false_iff.mpr (not_or.mp hasks).2⟩
    rw [hsource.place, htarget.place]
    exact ⟨(h.erase hentry).put hfolder (.inr ⟨⟨content, rfl⟩, hplace⟩), hnames,
      List.concat_ne_nil _ _, List.concat_ne_nil _ _, _, hentry, rfl⟩
  · cases hrename

end Operations

/-! ## The disk -/

/-- How a file tree with a certain working folder is seen. -/
def sight (working : Location) : Sight FileTree where
  working := working
  entry? := get?
  Sound t := t.IsPlain ∧ t.workingFolder = working
  NamesFile := NamesFile

section Disk

variable {working : Location} {t : FileTree}

/-- A change that happens as a whole or not at all, when it happens. -/
theorem of_atomically_ok {t' : FileTree} {change : Except Fault FileTree}
    (h : t.atomically change = (.ok (), t')) : change = .ok t' := by
  cases change with
  | error fault => cases (Prod.mk.inj h).1
  | ok changed => rw [(Prod.mk.inj h).2]

theorem of_atomically_error {t' : FileTree} {fault : Fault} {change : Except Fault FileTree}
    (h : t.atomically change = (.error fault, t')) : t' = t := by
  cases change with
  | error fault => exact (Prod.mk.inj h).2.symm
  | ok changed => cases (Prod.mk.inj h).1

/-- Making one folder. -/
theorem asBefore_makeFolder {t' : FileTree} {path : String} (ht : (sight working).Sound t)
    (hpath : IsStraight path) (hmake : t.makeFolder path = .ok t') :
    (sight working).Sound t' ∧
      ∀ place, (sight working).AsBefore (placeFrom working path) t t' place := by
  obtain ⟨hplain, rfl⟩ := ht
  obtain ⟨hmade, rfl, hne, hnone⟩ := hplain.makeFolder_eq_ok hpath hmake
  refine ⟨⟨hmade, rfl⟩, fun place => ?_⟩
  by_cases heq : place = placeFrom t.workingFolder path
  · subst heq
    exact .inr ⟨List.prefix_rfl, hnone, get?_put hne⟩
  · exact .inl (get?_put_of_ne heq)

/-- Making a folder and what is missing above it, as far as it goes. -/
theorem asBefore_makeFoldersFrom {steps : Nat} {path : String} (ht : (sight working).Sound t)
    (hpath : IsStraight path) :
    (sight working).Sound (t.makeFoldersFrom steps path).2 ∧
      ∀ place, (sight working).AsBefore (placeFrom working path) t
        (t.makeFoldersFrom steps path).2 place := by
  have hrefl : (sight working).Sound t ∧
      ∀ place, (sight working).AsBefore (placeFrom working path) t t place :=
    ⟨ht, fun _ => .refl⟩
  induction steps generalizing path with
  | zero => exact hrefl
  | succ steps ih =>
    unfold makeFoldersFrom
    split
    · exact hrefl
    split
    · next made hmake => exact asBefore_makeFolder ht hpath hmake
    · split
      · exact hrefl
      next parent hparent =>
      obtain ⟨hsound, hbefore⟩ := ih (hpath.parent? hparent) ⟨ht, fun _ => .refl⟩
      have habove : ∀ place, (sight working).AsBefore (placeFrom working path) t
          (t.makeFoldersFrom steps parent).2 place := fun place =>
        (hbefore place).mono (hpath.placeFrom_parent?_isPrefix hparent)
      split
      · next fault above hmake =>
        rw [hmake] at hsound habove
        exact ⟨hsound, habove⟩
      · next above hmake =>
        rw [hmake] at hsound habove
        split
        · next made hlast =>
          obtain ⟨hmade, hlater⟩ := asBefore_makeFolder hsound hpath hlast
          exact ⟨hmade, fun place => (habove place).trans (hlater place)⟩
        · exact ⟨hsound, habove⟩
    · exact hrefl

/-- **The file tree is a disk of plain files and folders.** -/
theorem plain_disk (working : Location) : disk.Plain (sight working) where
  makeFolders ht hpath := asBefore_makeFoldersFrom ht hpath
  write := by
    rintro path t content ⟨ht, rfl⟩ hpath
    simp only [disk]
    cases hwrite : t.write path content with
    | error fault => exact ⟨⟨ht, rfl⟩, fun _ _ => rfl⟩
    | ok t' =>
      obtain ⟨hplain, rfl, -⟩ := ht.write_eq_ok hpath hwrite
      exact ⟨⟨hplain, rfl⟩, fun place hplace => get?_put_of_ne hplace⟩
  write_ok := by
    rintro path content t t' ⟨ht, rfl⟩ hpath hdone
    obtain ⟨-, rfl, hne⟩ := ht.write_eq_ok hpath (of_atomically_ok hdone)
    exact get?_put hne
  rename := by
    rintro source target t ⟨ht, rfl⟩ hsource htarget
    simp only [disk]
    cases hrename : t.rename source target with
    | error fault => exact ⟨ht, rfl⟩
    | ok t' =>
      obtain ⟨hplain, -, -, -, entry, -, rfl⟩ := ht.rename_eq_ok hsource htarget hrename
      exact ⟨hplain, rfl⟩
  rename_error := by
    rintro source target t t' fault - - - hdone place
    rw [of_atomically_error hdone]
  rename_ok := by
    rintro source target content t t' ⟨ht, rfl⟩ hsource htarget hne hcontent hdone
    obtain ⟨-, hnames, hsourceNe, htargetNe, entry, hentry, rfl⟩ :=
      ht.rename_eq_ok hsource htarget (of_atomically_ok hdone)
    obtain rfl : entry = .file content := Option.some.inj (hentry.symm.trans hcontent)
    refine ⟨⟨get?_put htargetNe, ?_, fun place hsource htarget => ?_⟩, hnames⟩
    · exact (get?_put_of_ne hne).trans (get?_erase hsourceNe)
    · exact (get?_put_of_ne htarget).trans (get?_erase_of_ne hsource)
  read := by
    rintro path content t ⟨ht, rfl⟩ hpath hnames hfile
    exact ht.read_of_file hpath hnames hfile

end Disk

end FileTree
end Files
end PlannerTrials
