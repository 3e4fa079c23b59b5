import PlannerTrials.Files.Fault
import PlannerTrials.Path
import PlannerTrials.Text.Utf8

/-!
# A tree of files

The state of a file system as a value: which entry stands at which location.  A location is the
list of names from the root, an entry is a file, a folder or a link, and one location is the
working folder in which relative paths start.

`FileTree.resolve` finds the location of a path.  It takes the names of the path one by one, as a Unix
system does: a name in the middle has to lead to a folder, links are replaced by the path they hold,
forty of them at most, and a slash at the end asks for a folder.
-/

namespace PlannerTrials.Files

open PlannerTrials (Bytes)

/-- The name of an entry in its folder. -/
abbrev Name := Bytes

/-- The names from the root to an entry. -/
abbrev Location := List Name

/-- The devices. -/
inductive Device where
  /-- It reads as nothing and swallows what is written to it. -/
  | empty
  /-- It reads as zeros without an end and has no room for anything. -/
  | full
  /-- It reads as zeros without an end and swallows what is written to it. -/
  | zeros
  deriving DecidableEq, Repr

/-- How many zeros are at hand where they have no end. -/
def Device.supply : Nat := 1048576

/-- What a device reads as. -/
def Device.content : Device → Bytes
  | .empty => []
  | .full | .zeros => List.replicate supply 0

/-- What a program says about itself when it is asked to. -/
structure About where
  /-- Which version it is. -/
  version : String := ""
  /-- How it is called: the texts between which the name stands under which it was launched. -/
  help : List String := []
  deriving DecidableEq, Repr

/-- What stands at a location. -/
inductive Entry where
  | file (content : Bytes)
  | folder
  /-- A link holds the path that stands for it. -/
  | link (target : Bytes)
  | device (device : Device)
  /-- A program of the system, a file that may be executed. -/
  | program (name : String) (about : About)
  deriving DecidableEq, Repr

/-- The state of a file system. -/
structure FileTree where
  /-- What stands where; of two entries at one location the first one counts. -/
  entries : List (Location × Entry)
  /-- Where relative paths start. -/
  workingFolder : Location

namespace FileTree

/-- The byte of the slash. -/
def slash : UInt8 := 0x2f

/-- The name `.`. -/
def hereName : Name := [0x2e]

/-- The name `..`. -/
def upName : Name := [0x2e, 0x2e]

/-- What stands at a location.  The root always is a folder. -/
def get? (t : FileTree) : Location → Option Entry
  | [] => some .folder
  | l => t.entries.lookup l

/-- The tree without the entry at a location. -/
def erase (t : FileTree) (l : Location) : FileTree :=
  { t with entries := t.entries.filter fun e => e.1 ≠ l }

/-- The tree with the given entry at a location. -/
def put (t : FileTree) (l : Location) (e : Entry) : FileTree :=
  { t.erase l with entries := (t.erase l).entries ++ [(l, e)] }

/-- The tree without a location and all that stands below it. -/
def prune (t : FileTree) (l : Location) : FileTree :=
  { t with entries := t.entries.filter fun e => !l.isPrefixOf e.1 }

/-- The names in a folder. -/
def namesIn (t : FileTree) (l : Location) : List Name :=
  t.entries.filterMap fun e => if e.1.dropLast = l then e.1.getLast? else none

/-- The names of a path between its slashes. -/
def pathNames (path : Bytes) : List Name := (Text.segments (· == slash) path).filter (· ≠ [])

/-- Whether a path ends with a slash. -/
def asksForFolder (path : Bytes) : Bool := path.getLast? == some slash

/-- The most links that a path may lead through. -/
def linkLimit : Nat := 40

/-- The longest name. -/
def nameLimit : Nat := 255

/-- No path has this length or more. -/
def pathLimit : Nat := 4096

/-- Where a path leads: a location in an existing folder, and what stands there. -/
structure Spot where
  location : Location
  entry : Option Entry
  /-- The path ended with a slash or a point, so that it only can mean a folder. -/
  folderOnly : Bool

/-- Takes names one by one from a folder.  The last name may be missing, and a link at the end is
followed if `follow` says so. -/
def walk (t : FileTree) (follow : Bool) (folderOnly : Bool) :
    (links : Nat) → Location → List Name → Except Fault Spot
  | _, here, [] => .ok ⟨here, some .folder, true⟩
  | links, here, name :: rest =>
    if name = hereName then t.walk follow folderOnly links here rest
    else if name = upName then t.walk follow folderOnly links here.dropLast rest
    else if nameLimit < name.length then .error .nameTooLong
    else
      let there := here ++ [name]
      match t.get? there with
      | none => if rest = [] then .ok ⟨there, none, folderOnly⟩ else .error .notFound
      | some .folder => t.walk follow folderOnly links there rest
      | some (.link target) =>
        if rest = [] ∧ ¬follow ∧ ¬folderOnly then .ok ⟨there, some (.link target), false⟩
        else
          match links with
          | 0 => .error .tooManyLinks
          | links + 1 =>
            let start := if target.head? = some slash then [] else here
            let folderOnly := folderOnly || (rest.isEmpty && asksForFolder target)
            t.walk follow folderOnly links start (pathNames target ++ rest)
      | some entry =>
        if rest = [] ∧ ¬folderOnly then .ok ⟨there, some entry, false⟩ else .error .notFolder
termination_by links _ names => (links, names.length)

/-- Where a path leads. -/
def resolveBytes (t : FileTree) (follow : Bool) (path : Bytes) : Except Fault Spot :=
  if path.contains 0 then .error .nulInPath
  else if path = [] then .error .notFound
  else if pathLimit ≤ path.length then .error .nameTooLong
  else
    let start := if path.head? = some slash then [] else t.workingFolder
    t.walk follow (asksForFolder path) linkLimit start (pathNames path)

/-- Where a path leads. -/
def resolve (t : FileTree) (follow : Bool) (path : String) : Except Fault Spot :=
  t.resolveBytes follow (Utf8.encodeString path)

/-- What a path leads to, through links. -/
def look (t : FileTree) (path : String) : Except Fault (Location × Entry) := do
  let spot ← t.resolve true path
  match spot.entry with
  | some e => .ok (spot.location, e)
  | none => .error .notFound

/-- Whether a path leads to a folder. -/
def isFolder (t : FileTree) (path : String) : Bool :=
  match t.look path with
  | .ok (_, .folder) => true
  | _ => false

/-- Whether a path leads to a file. -/
def isFile (t : FileTree) (path : String) : Bool :=
  match t.look path with
  | .ok (_, .file _) | .ok (_, .program _ _) => true
  | _ => false

/-- What a program of the system says about itself. -/
def about (t : FileTree) (program : String) : About :=
  (t.entries.findSome? fun
    | (_, .program name about) => if name = program then some about else none
    | _ => none).getD {}

/-- The content of the file at a path. -/
def read (t : FileTree) (path : String) : Except Fault Bytes := do
  match ← t.look path with
  | (_, .file content) => .ok content
  | (_, .folder) => .error .isFolder
  | (_, .device device) => .ok device.content
  | _ => .ok []

/-- The names in the folder at a path. -/
def list (t : FileTree) (path : String) : Except Fault (List Name) := do
  match ← t.look path with
  | (l, .folder) => .ok (t.namesIn l)
  | _ => .error .notFolder

/-! ## Changing the tree -/

/-- Writes a file, new or in the place of its former content. -/
def write (t : FileTree) (path : String) (content : Bytes) : Except Fault FileTree := do
  let spot ← t.resolve true path
  match spot.entry with
  | some .folder => .error .isFolder
  | some (.device .empty) | some (.device .zeros) => .ok t
  | some (.device .full) => if content = [] then .ok t else .error .noSpace
  | some _ => .ok (t.put spot.location (.file content))
  | none => if spot.folderOnly then .error .isFolder else .ok (t.put spot.location (.file content))

/-- The folder in which the last name of a path stands, that name, and whether the path asks for a
folder.  There is no such name in a path that ends with points or is the root. -/
def locateLast (t : FileTree) (path : String) : Except Fault (Location × Option Name × Bool) := do
  let bytes := Utf8.encodeString path
  if bytes.contains 0 then .error .nulInPath
  else if bytes = [] then .error .notFound
  else if pathLimit ≤ bytes.length then .error .nameTooLong
  else
    let names := pathNames bytes
    let start := if bytes.head? = some slash then [] else t.workingFolder
    match names.getLast? with
    | none => .ok (start, none, true)
    | some last =>
      let spot ← t.walk true true linkLimit start names.dropLast
      match spot.entry with
      | some .folder =>
        if last = hereName ∨ last = upName then .ok (spot.location, none, true)
        else .ok (spot.location, some last, asksForFolder bytes)
      | _ => .error .notFound

/-- Makes one folder in an existing one. -/
def makeFolder (t : FileTree) (path : String) : Except Fault FileTree := do
  match ← t.locateLast path with
  | (_, none, _) => .error .alreadyThere
  | (folder, some name, _) =>
    if nameLimit < name.length then .error .nameTooLong
    else if (t.get? (folder ++ [name])).isSome then .error .alreadyThere
    else .ok (t.put (folder ++ [name]) .folder)

/-- Makes a folder and whatever is missing above it.  What has been made stays also where a later
step fails. -/
def makeFoldersFrom (t : FileTree) : (steps : Nat) → String → Except Fault Unit × FileTree
  | 0, _ => (.ok (), t)
  | steps + 1, path =>
    if path = "" then (.ok (), t)
    else
      match t.makeFolder path with
      | .ok t => (.ok (), t)
      | .error .notFound =>
        match Path.parent? path with
        | none => (.error (.other "failed to create whole tree"), t)
        | some parent =>
          match t.makeFoldersFrom steps parent with
          | (.error fault, t) => (.error fault, t)
          | (.ok (), t) =>
            match t.makeFolder path with
            | .ok t => (.ok (), t)
            | .error fault => (if t.isFolder path then .ok () else .error fault, t)
      | .error fault => (if t.isFolder path then .ok () else .error fault, t)

/-- Makes a folder and whatever is missing above it. -/
def makeFolders (t : FileTree) (path : String) : Except Fault Unit × FileTree :=
  t.makeFoldersFrom ((Path.components path).length + 1) path

/-- Gives the file at one path the place of another one. -/
def rename (t : FileTree) (source target : String) : Except Fault FileTree := do
  let (folder, name?, asks) ← t.locateLast source
  let (folder', name'?, asks') ← t.locateLast target
  match name?, name'? with
  | some name, some name' =>
    if nameLimit < name.length then .error .nameTooLong
    else
      match t.get? (folder ++ [name]) with
      | none => .error .notFound
      | some .folder => .error .invalid
      | some entry =>
        if nameLimit < name'.length then .error .nameTooLong
        else if asks ∨ asks' then .error .notFolder
        else if t.get? (folder' ++ [name']) = some .folder then .error .isFolder
        else .ok ((t.erase (folder ++ [name])).put (folder' ++ [name']) entry)
  | _, _ => .error .busy

end FileTree

end PlannerTrials.Files
