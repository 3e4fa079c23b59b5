import PlannerTrials.Files.View

/-!
# Setting up a file tree

Entries are placed one after the other, with the folders above them made as needed, and may be taken
away again.  Nothing can go wrong here: an entry that has no place is left out.
-/

namespace PlannerTrials.Files

open PlannerTrials (Bytes)

namespace FileTree

/-- The location of a path from the root. -/
def rooted (path : String) : Location := pathNames (Utf8.encodeString path)

/-- The folders that every system has. -/
def systemFolders : List String :=
  ["/boot", "/dev", "/dev/shm", "/etc", "/home", "/media", "/mnt", "/opt", "/proc", "/proc/self",
    "/proc/self/fd", "/root", "/run", "/srv", "/sys", "/tmp", "/usr", "/usr/bin", "/usr/games",
    "/usr/include", "/usr/lib", "/usr/lib64", "/usr/libexec", "/usr/local", "/usr/local/bin",
    "/usr/local/sbin", "/usr/sbin", "/usr/share", "/usr/src", "/var", "/var/cache", "/var/lib",
    "/var/log", "/var/spool", "/var/tmp"]

/-- The links that every system has.  The first three channels of a program are links to nothing
here; who knows where they lead looks at their names. -/
def systemLinks : List (String × String) :=
  [("/bin", "usr/bin"), ("/lib", "usr/lib"), ("/lib64", "usr/lib64"), ("/sbin", "usr/sbin"),
    ("/var/run", "/run"), ("/dev/fd", "/proc/self/fd"), ("/dev/stdin", "/proc/self/fd/0"),
    ("/dev/stdout", "/proc/self/fd/1"), ("/dev/stderr", "/proc/self/fd/2"),
    ("/proc/self/fd/0", "/dev/null"), ("/proc/self/fd/1", "/dev/null"),
    ("/proc/self/fd/2", "/dev/null")]

/-- The devices that every system has. -/
def systemDevices : List (String × Device) :=
  [("/dev/null", .empty), ("/dev/full", .full), ("/dev/zero", .zeros), ("/dev/random", .zeros),
    ("/dev/urandom", .zeros)]

/-- A tree that holds the way to its empty working folder, the usual folders and devices of a system, and
its programs and files. -/
def system (programs : List (String × About)) (files : List (String × String)) : FileTree :=
  let entries : List (Location × Entry) :=
    systemFolders.map (fun path => (rooted path, .folder)) ++
      systemLinks.map (fun (path, target) => (rooted path, .link (Utf8.encodeString target))) ++
      systemDevices.map (fun (path, device) => (rooted path, .device device)) ++
      programs.map (fun (name, about) => (rooted ("/usr/bin/" ++ name), .program name about)) ++
      files.map (fun (path, text) => (rooted path, .file (Utf8.encodeString text))) ++
      [(rooted "/tmp/trial", .folder)]
  ⟨entries, rooted "/tmp/trial"⟩

/-- The most that a system keeps of the name of a running program. -/
def programNameLimit : Nat := 15

/-- The tree as a running program sees it, in which two files tell how it was launched: its name
without folders, and all words of the launch, each with NUL after it. -/
def seenBy (t : FileTree) (words : List Bytes) : FileTree :=
  let name := ((pathNames (words.headD [])).getLast?.getD []).take programNameLimit
  (t.put (rooted "/proc/self/comm") (.file (name ++ [0x0a]))).put (rooted "/proc/self/cmdline")
    (.file (words.flatMap (· ++ [0])))

/-- The folder to which names lead, with the missing ones made. -/
def reach (t : FileTree) (here : Location) : List Name → FileTree × Location
  | [] => (t, here)
  | name :: rest =>
    match t.walk true true linkLimit here [name] with
    | .ok ⟨there, none, _⟩ => (t.put there .folder).reach there rest
    | .ok ⟨there, some _, _⟩ => t.reach there rest
    | .error _ => t.reach (here ++ [name]) rest

/-- Places an entry at a path. -/
def install (t : FileTree) (path : Bytes) (entry : Entry) : FileTree :=
  let names := pathNames path
  match entry, names.getLast? with
  | .folder, _ => (t.reach t.workingFolder names).1
  | _, none => t
  | .link _, some last =>
    let (t, here) := t.reach t.workingFolder names.dropLast
    t.put (here ++ [last]) entry
  | _, some last =>
    let (t, here) := t.reach t.workingFolder names.dropLast
    match t.walk true false linkLimit here [last] with
    | .ok spot => t.put spot.location entry
    | .error _ => t

/-- Takes the entry at a path away, with all that stands below it. -/
def uninstall (t : FileTree) (path : Bytes) : FileTree :=
  match t.resolveBytes false path with
  | .ok spot => t.prune spot.location
  | .error _ => t

end FileTree

end PlannerTrials.Files
