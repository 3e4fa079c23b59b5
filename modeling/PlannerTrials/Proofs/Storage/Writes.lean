import PlannerTrials.Proofs.Files.PlainTree
import PlannerTrials.Proofs.Storage
import Mathlib

/-!
# Writes are whole

A storage on a disk of plain files and folders writes a file as a whole or not at all.  For one write this
is what replacing a file does (`write_whole`).  For a sequence of writes, any of which may fail at any step,
it says what each target holds in the end: the content of the last write to it that succeeded, or what
it held at the start (`entry?_writeAll`).

A write touches more than its target, namely the file beside it and folders above it.  So two targets must
not get into each other's way: none may be the file beside another one, and none may be below another
one.  Targets are compared by their places, the names from the root, because two paths may be
written differently and lead to the same file.
-/

namespace PlannerTrials

open Files (Sight IsStraight spareFrom Location Entry)

namespace Storage

variable {σ : Type}

/-! ## One write -/

/-- A path that names something in its folder and does not go up. -/
structure IsTarget (base path : String) : Prop where
  named : ∃ name, Path.fileName? (resolve base path) = some name
  straight : IsStraight (resolve base path)

/-- A path with a last name is a target below any base if neither of them goes up. -/
theorem isTarget_of_fileName? {base path name : String} (hname : Path.fileName? path = some name)
    (hpath : IsStraight path) (hbase : IsStraight base) : IsTarget base path :=
  ⟨⟨name, Path.fileName?_join_of_fileName? hname base⟩,
    Path.up_not_mem_components_join hbase hpath⟩

section Write

variable {disk : Files.Disk σ} {sight : Sight σ} {base path : String} (content : Bytes) {s : σ}

/-- **One write is whole**: after a failure the target is what it was, with all that is below it, and after
a success it can be read. -/
theorem write_whole (hdisk : disk.Plain sight) (hpath : IsTarget base path) (hs : sight.Sound s) :
    sight.Sound ((onDisk disk base).write path content s).2 ∧
      (∀ failure, ((onDisk disk base).write path content s).1 = .error failure →
        sight.Kept (resolve base path) s ((onDisk disk base).write path content s).2) ∧
      (((onDisk disk base).write path content s).1 = .ok () →
        sight.Replaced (resolve base path) content s ((onDisk disk base).write path content s).2 ∧
          (onDisk disk base).read path ((onDisk disk base).write path content s).2 =
            .ok content) := by
  obtain ⟨name, hname⟩ := hpath.named
  obtain ⟨hsound, hkept, hreplaced⟩ := hdisk.of_goes hname hpath.straight hs
    (disk.goes_replaceFile (resolve base path) content s)
  simp only [write_onDisk]
  refine ⟨hsound, fun failure hfailure => ?_, fun hdone => ?_⟩
  · cases hgone : (disk.replaceFile (resolve base path) content s).1 with
    | error fault => exact hkept fault hgone
    | ok =>
      rw [hgone] at hfailure
      cases hfailure
  · cases hgone : (disk.replaceFile (resolve base path) content s).1 with
    | error fault =>
      rw [hgone] at hdone
      cases hdone
    | ok =>
      obtain ⟨hnew, hnames⟩ := hreplaced hgone
      refine ⟨hnew, ?_⟩
      have hread := hdisk.read hsound hpath.straight hnames hnew.there
      simp only [onDisk, hread]
      rfl

end Write

/-! ## Many writes -/

/-- Writes one after the other.  One that fails does not keep the others from happening. -/
def writeAll (storage : Storage σ) : List (String × Bytes) → σ → List (Except Failure Unit) × σ
  | [], s => ([], s)
  | (path, content) :: writes, s =>
    let (result, s) := storage.write path content s
    let (results, s) := storage.writeAll writes s
    (result :: results, s)

/-- The content of the last write to a place that succeeded, if there was one. -/
def lastWritten? (placeOf : String → Location) (place : Location) (writes : List (String × Bytes))
    (results : List (Except Failure Unit)) : Option Bytes :=
  ((writes.zip results).filter fun w => decide (placeOf w.1.1 = place) && w.2.isOk).getLast?.map
    fun w => w.1.2

/-- The last write counts: the ones after the first, or else the first one itself. -/
theorem lastWritten?_cons (placeOf : String → Location) (place : Location) (path : String)
    (content : Bytes) (writes : List (String × Bytes)) (result : Except Failure Unit)
    (results : List (Except Failure Unit)) :
    lastWritten? placeOf place ((path, content) :: writes) (result :: results) =
      (lastWritten? placeOf place writes results).or
        (if placeOf path = place ∧ result.isOk = true then some content else none) := by
  unfold lastWritten?
  rw [List.zip_cons_cons, List.filter_cons]
  by_cases h : placeOf path = place ∧ result.isOk = true
  · rw [if_pos h, if_pos (by simpa using h), List.getLast?_cons]
    cases ((writes.zip results).filter fun w =>
      decide (placeOf w.1.1 = place) && w.2.isOk).getLast? with
    | none => rfl
    | some last => rfl
  · rw [if_neg h, if_neg (by simpa using h), Option.or_none]

/-- What stands at a place after whole files have been written there, or none. -/
def settled (found : Option Entry) : Option Bytes → Option Entry
  | none => found
  | some content => some (.file content)

theorem settled_or (found : Option Entry) (later sooner : Option Bytes) :
    settled found (later.or sooner) = settled (settled found sooner) later := by
  cases later with
  | none => rfl
  | some content => rfl

/-- Targets that do not get into each other's way. -/
structure Apart (sight : Sight σ) (base : String) (paths : List String) : Prop where
  /-- None is the file beside another one. -/
  not_spare : ∀ path ∈ paths, ∀ other ∈ paths,
    sight.placeOf (resolve base path) ≠ spareFrom sight.working (resolve base other)
  /-- None is below another one. -/
  not_below : ∀ path ∈ paths, ∀ other ∈ paths,
    sight.placeOf (resolve base path) <+: sight.placeOf (resolve base other) →
      sight.placeOf (resolve base path) = sight.placeOf (resolve base other)

section WriteAll

variable {disk : Files.Disk σ} {sight : Sight σ} (hdisk : disk.Plain sight) {base : String}
  {place : Location}

include hdisk

/-- What one write does to a place that is its target or out of its way. -/
theorem entry?_write {path : String} (content : Bytes) {s : σ} (hpath : IsTarget base path)
    (hs : sight.Sound s) (hspare : place ≠ spareFrom sight.working (resolve base path))
    (habove : place <+: sight.placeOf (resolve base path) →
      place = sight.placeOf (resolve base path)) :
    sight.entry? ((onDisk disk base).write path content s).2 place =
      settled (sight.entry? s place)
        (if sight.placeOf (resolve base path) = place ∧
            ((onDisk disk base).write path content s).1.isOk = true then some content
          else none) := by
  obtain ⟨-, hkept, hreplaced⟩ := write_whole content hdisk hpath hs
  cases hresult : ((onDisk disk base).write path content s).1 with
  | error failure =>
    have hsame := (hkept failure hresult).others place hspare
    rw [if_neg (fun h => Bool.false_ne_true h.2)]
    by_cases heq : place = sight.placeOf (resolve base path)
    · subst heq
      exact (hkept failure hresult).same _ List.prefix_rfl
    · exact hsame.eq fun h => heq (habove (h.trans (List.dropLast_prefix _)))
  | ok =>
    have hnew := (hreplaced hresult).1
    by_cases heq : place = sight.placeOf (resolve base path)
    · subst heq
      rw [if_pos ⟨rfl, rfl⟩]
      exact hnew.there
    · rw [if_neg (fun h => heq h.1.symm)]
      exact (hnew.others place heq hspare).eq fun h =>
        heq (habove (h.trans (List.dropLast_prefix _)))

/-- **What stands at a place after writes** that have it as their target or are out of its way: the content
of the last one to it that succeeded, or what was there. -/
theorem entry?_writeAll {writes : List (String × Bytes)} {s : σ}
    (htargets : ∀ write ∈ writes, IsTarget base write.1) (hs : sight.Sound s)
    (hspare : ∀ write ∈ writes, place ≠ spareFrom sight.working (resolve base write.1))
    (habove : ∀ write ∈ writes, place <+: sight.placeOf (resolve base write.1) →
      place = sight.placeOf (resolve base write.1)) :
    sight.entry? ((onDisk disk base).writeAll writes s).2 place =
      settled (sight.entry? s place)
        (lastWritten? (fun path => sight.placeOf (resolve base path)) place writes
          ((onDisk disk base).writeAll writes s).1) := by
  induction writes generalizing s with
  | nil => rfl
  | cons write writes ih =>
    obtain ⟨path, content⟩ := write
    rw [List.forall_mem_cons] at htargets hspare habove
    obtain ⟨hsound, -⟩ := write_whole content hdisk htargets.1 hs
    have hfirst := entry?_write hdisk content htargets.1 hs hspare.1 habove.1
    have hrest := ih htargets.2 hsound hspare.2 habove.2
    simp only [writeAll]
    rw [hrest, hfirst, lastWritten?_cons, settled_or]

/-- **Writing is all or nothing.**  One write that fails leaves its target as it was, and one that
succeeds gives the target its content, which can be read, leaves no file beside it and changes nothing else
but folders that were missing.  After any writes, each of which may fail at any step, to targets that do
not get into each other's way, each target holds the content of the last write to it that succeeded, or
what it held at the start. -/
theorem writes_are_whole (base : String) :
    (∀ path content s, sight.Sound s → IsTarget base path →
      (∀ failure, ((onDisk disk base).write path content s).1 = .error failure →
        sight.Kept (resolve base path) s ((onDisk disk base).write path content s).2) ∧
      (((onDisk disk base).write path content s).1 = .ok () →
        sight.Replaced (resolve base path) content s ((onDisk disk base).write path content s).2 ∧
          (onDisk disk base).read path ((onDisk disk base).write path content s).2 =
            .ok content)) ∧
    ∀ writes s, sight.Sound s → (∀ write ∈ writes, IsTarget base write.1) →
      Apart sight base (writes.map Prod.fst) → ∀ path ∈ writes.map Prod.fst,
        sight.entry? ((onDisk disk base).writeAll writes s).2 (sight.placeOf (resolve base path)) =
          settled (sight.entry? s (sight.placeOf (resolve base path)))
            (lastWritten? (fun other => sight.placeOf (resolve base other))
              (sight.placeOf (resolve base path)) writes ((onDisk disk base).writeAll writes s).1) := by
  constructor
  · intro path content s hs hpath
    exact (write_whole content hdisk hpath hs).2
  · intro writes s hs htargets hapart path hpath
    refine entry?_writeAll hdisk htargets hs (fun write hwrite => ?_) (fun write hwrite => ?_)
    · exact hapart.not_spare path hpath write.1 (List.mem_map_of_mem hwrite)
    · exact hapart.not_below path hpath write.1 (List.mem_map_of_mem hwrite)

end WriteAll

/-! ## A folder with results -/

/-- A working folder `w` with a result `r`, and beside it what a write that failed has left. -/
def resultTree (left : Bytes) : Files.FileTree where
  entries :=
    [([[0x77]], .folder), ([[0x77], [0x72]], .file [1, 2, 3]),
      ([[0x77], [0x72, 0x2e, 0x74, 0x6d, 0x70]], .file left)]
  workingFolder := [[0x77]]

def resultSight : Sight (Files.FileTree × List (Option Files.Trouble)) :=
  (Files.FileTree.sight [[0x77]]).troubled

/-- What is to be written: the result twice, and another one in a folder `n` that is missing. -/
def resultWrites : List (String × Bytes) := [("r", [4]), ("r", [5]), ("n/s", [6])]

/-- The first content cannot be given its place, and the missing folder cannot be made. -/
def resultState : Files.FileTree × List (Option Files.Trouble) :=
  (resultTree [9], [none, none, some ⟨.busy, 0, []⟩, none, none, none, some ⟨.denied, 1, []⟩])

theorem sound_resultState : resultSight.Sound resultState := by
  refine ⟨Files.FileTree.isPlain_of_entries ?_ ?_ rfl, rfl⟩
  · simp [resultState, resultTree]
  · simp [resultState, resultTree, Files.FileTree.get?]

theorem isTarget_resultWrites : ∀ write ∈ resultWrites, IsTarget here write.1 := by
  have hhere : IsStraight here := by decide +kernel
  have hresult : Path.fileName? "r" = some "r" := by decide +kernel
  have hother : Path.fileName? "n/s" = some "s" := by decide +kernel
  have hresultTarget := isTarget_of_fileName? hresult (by decide +kernel) hhere
  have hotherTarget := isTarget_of_fileName? hother (by decide +kernel) hhere
  simp only [resultWrites, List.forall_mem_cons]
  exact ⟨hresultTarget, hresultTarget, hotherTarget, nofun⟩

theorem placeOf_result : resultSight.placeOf (resolve here "r") = [[0x77], [0x72]] := by
  decide +kernel

theorem placeOf_other : resultSight.placeOf (resolve here "n/s") = [[0x77], [0x6e], [0x73]] := by
  decide +kernel

theorem apart_resultWrites : Apart resultSight here (resultWrites.map Prod.fst) := by
  have hresult : spareFrom resultSight.working (resolve here "r") =
      [[0x77], [0x72, 0x2e, 0x74, 0x6d, 0x70]] := by decide +kernel
  have hother : spareFrom resultSight.working (resolve here "n/s") =
      [[0x77], [0x6e], [0x73, 0x2e, 0x74, 0x6d, 0x70]] := by decide +kernel
  constructor
  · simp [resultWrites, placeOf_result, placeOf_other, hresult, hother]
  · simp [resultWrites, placeOf_result, placeOf_other]

theorem makeFolders_resultTree (left : Bytes) :
    Files.FileTree.disk.makeFolders "." (resultTree left) = (.ok (), resultTree left) := by
  cbv

theorem write_resultTree (left content : Bytes) :
    Files.FileTree.disk.write "./r.tmp" content (resultTree left) =
      (.ok (), resultTree content) := by
  have hpath : Utf8.encodeString "./r.tmp" = [46, 47, 114, 46, 116, 109, 112] := by decide +kernel
  simp only [Files.FileTree.disk, Files.FileTree.write, Files.FileTree.resolve, hpath]
  cbv

theorem rename_resultTree (left : Bytes) :
    Files.FileTree.disk.rename "./r.tmp" "./r" (resultTree left) =
      (.ok (), ⟨[([[0x77]], .folder), ([[0x77], [0x72]], .file left)], [[0x77]]⟩) := by
  have hsource : Utf8.encodeString "./r.tmp" = [46, 47, 114, 46, 116, 109, 112] := by
    decide +kernel
  have htarget : Utf8.encodeString "./r" = [46, 47, 114] := by decide +kernel
  simp only [Files.FileTree.disk, Files.FileTree.rename, Files.FileTree.locateLast, hsource,
    htarget]
  cbv

/-- The first and the last of the writes fail. -/
theorem results_resultWrites :
    ((onDisk Files.FileTree.disk.troubled here).writeAll resultWrites resultState).1 =
      [.error (.file .busy), .ok (), .error (.file .denied)] := by
  have hresult : resolve here "r" = "./r" := by decide +kernel
  have hother : resolve here "n/s" = "./n/s" := by decide +kernel
  have hspare : Files.Disk.temporary "./r" = "./r.tmp" := by decide +kernel
  have hresultParent : Path.parent? "./r" = some "." := by decide +kernel
  have hotherParent : Path.parent? "./n/s" = some "./n" := by decide +kernel
  have habove : Path.parent? "./n" = some "." := by decide +kernel
  simp only [resultWrites, resultState, writeAll, write_onDisk, Files.Disk.replaceFile,
    Files.Disk.makeParents, Files.Disk.troubled, hresult, hother, hspare, hresultParent,
    hotherParent, habove, String.reduceEq, ↓reduceIte, List.headD_cons, List.tail_cons,
    makeFolders_resultTree, write_resultTree, rename_resultTree, Files.ancestor?,
    Option.bind_some]
  rfl

/-- The result is what the second write has written, and nothing is where the third one failed. -/
theorem writes_are_whole_in_trouble :
    resultSight.Sound resultState ∧ (∀ write ∈ resultWrites, IsTarget here write.1) ∧
      Apart resultSight here (resultWrites.map Prod.fst) ∧
      resultSight.entry? resultState [[0x77], [0x72]] = some (.file [1, 2, 3]) ∧
      resultSight.entry?
        ((onDisk Files.FileTree.disk.troubled here).writeAll resultWrites resultState).2
        [[0x77], [0x72]] = some (.file [5]) ∧
      resultSight.entry?
        ((onDisk Files.FileTree.disk.troubled here).writeAll resultWrites resultState).2
        [[0x77], [0x6e], [0x73]] = none := by
  have hplain : Files.FileTree.disk.troubled.Plain resultSight :=
    (Files.FileTree.plain_disk [[0x77]]).troubled
  have hwhole := (writes_are_whole hplain here).2 resultWrites resultState sound_resultState
    isTarget_resultWrites apart_resultWrites
  have hresult := hwhole "r" (by decide)
  have hother := hwhole "n/s" (by decide)
  rw [results_resultWrites, placeOf_result] at hresult
  rw [results_resultWrites, placeOf_other] at hother
  have hmissing : resultSight.entry? resultState [[0x77], [0x6e], [0x73]] = none := rfl
  refine ⟨sound_resultState, isTarget_resultWrites, apart_resultWrites, rfl, ?_, ?_⟩
  · rw [hresult]
    simp [lastWritten?, resultWrites, placeOf_result, placeOf_other, Except.isOk, Except.toBool,
      settled]
  · rw [hother, hmissing]
    simp [lastWritten?, resultWrites, placeOf_result, placeOf_other, Except.isOk, Except.toBool,
      settled]

end Storage
end PlannerTrials
