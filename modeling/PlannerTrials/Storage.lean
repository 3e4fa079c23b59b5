import PlannerTrials.Failure
import PlannerTrials.Files.Disk

/-!
# Storage for result tables

A storage reads and writes files as a whole.  The one on a disk resolves relative paths against a
base and replaces files by `Disk.replaceFile`; all of its failures are failures of files.
-/

namespace PlannerTrials

open Files

/-- A storage in the state `σ`. -/
structure Storage (σ : Type) where
  read : String → σ → Except Failure Bytes
  write : String → Bytes → σ → Except Failure Unit × σ

namespace Storage

/-- The base of paths that are relative to the working folder. -/
def here : String := "."

/-- A path on the disk for a path in the storage. -/
def resolve (base path : String) : String := Path.join base path

/-- The storage under a base on a disk. -/
def onDisk {σ : Type} (disk : Disk σ) (base : String) : Storage σ where
  read path s := (disk.read (resolve base path) s).mapError Failure.file
  write path content s :=
    let (result, s) := disk.replaceFile (resolve base path) content s
    (result.mapError Failure.file, s)

end Storage

end PlannerTrials
