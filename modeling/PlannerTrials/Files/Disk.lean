import PlannerTrials.Files.Tree

/-!
# Replacing a file as a whole

A result file is never written in place.  The new content goes to a file beside it, whose name ends
with `.tmp`, and only when that file is complete it takes the place of the old one.  A fault at any
step therefore leaves the old content as it was.

`Disk.replaceFile` is written against a record of four operations, because what matters about it holds
for every disk on which taking another file's place is a single step, also for one on which any
operation may fail half way.  `FileTree.disk` is the disk of the file tree.
-/

namespace PlannerTrials.Files

open PlannerTrials (Bytes)

/-- The operations on a disk in the state `σ`.  An operation that fails may have changed it. -/
structure Disk (σ : Type) where
  read : String → σ → Except Fault Bytes
  makeFolders : String → σ → Except Fault Unit × σ
  write : String → Bytes → σ → Except Fault Unit × σ
  rename : String → String → σ → Except Fault Unit × σ

namespace Disk

variable {σ : Type}

/-- The file that takes the content until it is complete. -/
def temporary (path : String) : String :=
  Path.withFileName path ((Path.fileName? path).getD "" ++ ".tmp")

/-- Makes the folders above a path, if it has any. -/
def makeParents (disk : Disk σ) (path : String) (s : σ) : Except Fault Unit × σ :=
  match Path.parent? path with
  | none => (.ok (), s)
  | some parent => if parent = "" then (.ok (), s) else disk.makeFolders parent s

/-- Gives the file at a path a new content, all of it or none. -/
def replaceFile (disk : Disk σ) (path : String) (content : Bytes) (s : σ) :
    Except Fault Unit × σ :=
  match disk.makeParents path s with
  | (.error fault, s) => (.error fault, s)
  | (.ok (), s) =>
    match disk.write (temporary path) content s with
    | (.error fault, s) => (.error fault, s)
    | (.ok (), s) => disk.rename (temporary path) path s

end Disk

namespace FileTree

/-- A change of the tree that happens as a whole or not at all. -/
def atomically (t : FileTree) : Except Fault FileTree → Except Fault Unit × FileTree
  | .ok t => (.ok (), t)
  | .error fault => (.error fault, t)

/-- The disk of the file tree. -/
def disk : Disk FileTree where
  read path t := t.read path
  makeFolders path t := t.makeFolders path
  write path content t := t.atomically (t.write path content)
  rename source target t := t.atomically (t.rename source target)

end FileTree

end PlannerTrials.Files
