import PlannerTrials.Proofs.Files.Replace
import PlannerTrials.Storage

/-!
# What a storage on a disk promises

The storage on a disk is written against the four operations of a disk and inherits what these promise.
Two things matter to a pass.  A failed write is a failure of a file and of nothing else
(`not_isConfigurationError_of_write_onDisk`).  And what can be read after a successful write is what was
written (`content_of_read_onDisk`), on every disk that keeps what it is given: on which a
written file reads as its content, and a renamed file as what it was before.
-/

namespace PlannerTrials

/-- A disk that keeps what it is given.  Whether a file can be read at all is not promised. -/
structure Files.Disk.Keeps {σ : Type} (disk : Files.Disk σ) : Prop where
  /-- A written file reads as what was written. -/
  read_write : ∀ {path content s s' found}, disk.write path content s = (.ok (), s') →
    disk.read path s' = .ok found → found = content
  /-- A renamed file reads as it did under its name before. -/
  read_rename : ∀ {source target s s' found}, disk.rename source target s = (.ok (), s') →
    disk.read target s' = .ok found → disk.read source s = .ok found

namespace Storage

section OnDisk

variable {σ : Type} {disk : Files.Disk σ} {base path : String} {content : Bytes} {s : σ}

/-- The storage on a disk replaces the file at the path on the disk. -/
theorem write_onDisk : (onDisk disk base).write path content s =
    ((disk.replaceFile (resolve base path) content s).1.mapError Failure.file,
      (disk.replaceFile (resolve base path) content s).2) := by
  simp only [onDisk]

/-- The storage on a disk fails only with failures of files. -/
theorem not_isConfigurationError_of_write_onDisk {failure : Failure}
    (h : ((onDisk disk base).write path content s).1 = .error failure) :
    failure.isConfigurationError = false := by
  simp only [write_onDisk] at h
  cases hresult : (disk.replaceFile (resolve base path) content s).1 with
  | error fault =>
    rw [hresult] at h
    rw [← Except.error.inj h]
    rfl
  | ok done =>
    rw [hresult] at h
    cases h

/-- A file that has been replaced has been written beside its place and then renamed. -/
theorem exists_write_rename_of_replaceFile {s' : σ}
    (h : disk.replaceFile path content s = (.ok (), s')) :
    ∃ made written, disk.write (Files.Disk.temporary path) content made = (.ok (), written) ∧
      disk.rename (Files.Disk.temporary path) path written = (.ok (), s') := by
  have hgoes := disk.goes_replaceFile path content s
  rw [h] at hgoes
  cases hgoes with
  | written hmade hwritten hrenamed => exact ⟨_, _, hwritten, hrenamed⟩

/-- **What is read after a successful write is what was written.** -/
theorem content_of_read_onDisk (hdisk : disk.Keeps) {found : Bytes}
    (hwrite : ((onDisk disk base).write path content s).1 = .ok ())
    (hread : (onDisk disk base).read path ((onDisk disk base).write path content s).2 =
      .ok found) : found = content := by
  cases hreplace : disk.replaceFile (resolve base path) content s with
  | mk result after =>
    simp only [onDisk, hreplace] at hwrite hread
    cases result with
    | error fault => cases hwrite
    | ok done =>
      obtain ⟨made, written, htemporary, hrename⟩ := exists_write_rename_of_replaceFile hreplace
      cases hfound : disk.read (resolve base path) after with
      | error fault =>
        rw [hfound] at hread
        cases hread
      | ok bytes =>
        rw [hfound] at hread
        obtain rfl : bytes = found := Except.ok.inj hread
        exact hdisk.read_write htemporary (hdisk.read_rename hrename hfound)

end OnDisk

end Storage

/-! ## A disk that keeps what it is given -/

/-- A disk that holds files under the texts of their paths and has room for everything. -/
def Files.Disk.memory : Files.Disk (List (String × Bytes)) where
  read path s :=
    match s.lookup path with
    | some content => .ok content
    | none => .error .notFound
  makeFolders _ s := (.ok (), s)
  write path content s := (.ok (), (path, content) :: s)
  rename source target s :=
    match s.lookup source with
    | some content => (.ok (), (target, content) :: s.filter fun file => file.1 ≠ source)
    | none => (.error .notFound, s)

/-- The last file that was put under a path is the one that is read. -/
theorem Files.Disk.read_memory_cons (path : String) (content : Bytes) (s : List (String × Bytes)) :
    Files.Disk.memory.read path ((path, content) :: s) = .ok content := by
  simp only [memory, List.lookup_cons, beq_self_eq_true]

theorem Files.Disk.keeps_memory : Files.Disk.memory.Keeps where
  read_write := by
    intro path content s s' found hwrite hread
    obtain rfl : (path, content) :: s = s' := congrArg Prod.snd hwrite
    rw [read_memory_cons] at hread
    exact (Except.ok.inj hread).symm
  read_rename := by
    intro source target s s' found hrename hread
    simp only [memory] at hrename hread ⊢
    cases hsource : s.lookup source with
    | none =>
      rw [hsource] at hrename
      exact absurd (congrArg Prod.fst hrename) (by simp)
    | some content =>
      rw [hsource] at hrename
      obtain rfl := congrArg Prod.snd hrename
      rw [List.lookup_cons, beq_self_eq_true] at hread
      exact hread

/-- On the disk in memory every write succeeds and can be read. -/
theorem Storage.write_read_memory (base path : String) (content : Bytes)
    (s : List (String × Bytes)) :
    ((onDisk Files.Disk.memory base).write path content s).1 = .ok () ∧
      (onDisk Files.Disk.memory base).read path
        ((onDisk Files.Disk.memory base).write path content s).2 = .ok content := by
  have hparents : Files.Disk.memory.makeParents (resolve base path) s = (.ok (), s) := by
    unfold Files.Disk.makeParents
    split
    · rfl
    · split <;> rfl
  have hreplace : Files.Disk.memory.replaceFile (resolve base path) content s =
      (.ok (), (resolve base path, content) ::
        ((Files.Disk.temporary (resolve base path), content) :: s).filter
          fun file => file.1 ≠ Files.Disk.temporary (resolve base path)) := by
    unfold Files.Disk.replaceFile
    rw [hparents]
    simp only [Files.Disk.memory, List.lookup_cons, beq_self_eq_true]
  simp only [onDisk, hreplace]
  refine ⟨rfl, ?_⟩
  simp only [Files.Disk.memory, List.lookup_cons, beq_self_eq_true]
  rfl

end PlannerTrials
