import PlannerTrials.Files.Disk

/-!
# Looking at files without changing them

What the search for problems asks of a file system: is this path a folder, is it a file, which names
does this folder hold?  The answers are taken as given, so that what the search promises holds
for every file system and for every order in which a folder lists its names.
-/

namespace PlannerTrials.Files

/-- The questions that can be asked about paths. -/
structure FileView where
  isFolder : String → Bool
  isFile : String → Bool
  /-- The names in a folder, in no particular order. -/
  list : String → Except Fault (List Name)

/-- The answers of a file tree. -/
def FileTree.view (t : FileTree) : FileView where
  isFolder := t.isFolder
  isFile := t.isFile
  list := t.list

/-- A path relative to a location, as bytes. -/
def FileTree.relativePath (names : List Name) : Bytes :=
  match names with
  | [] => []
  | [n] => n
  | n :: rest => n ++ FileTree.slash :: FileTree.relativePath rest

/-- The order of byte sequences. -/
def bytesBefore : Bytes → Bytes → Bool
  | [], _ => true
  | _ :: _, [] => false
  | a :: as, b :: bs => if a = b then bytesBefore as bs else a < b

/-- Every entry below the working folder with its relative path, in the order of the paths. -/
def FileTree.listing (t : FileTree) : List (Bytes × Entry) :=
  let below := t.entries.filterMap fun e =>
    if t.workingFolder.isPrefixOf e.1 ∧ e.1 ≠ t.workingFolder then
      some (FileTree.relativePath (e.1.drop t.workingFolder.length), e.2)
    else none
  below.mergeSort fun a b => bytesBefore a.1 b.1

end PlannerTrials.Files
