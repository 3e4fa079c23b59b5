import PlannerTrials.Cli.Command
import PlannerTrials.Cli.Usage
import PlannerTrials.Files.Setup
import PlannerTrials.Host.Machine
import Std.Time.DateTime

/-!
# The program

The commands are functions of a machine, and a machine holds its files as a value.  So the program
takes a picture of the files that a command can reach, carries the command out on the picture, shows
what was said, and then brings the disk to where the picture has got.  What a command can reach are the
paths that it and its configuration name, and the working folder if solvers are launched.

Which paths these are, how a picture becomes a file tree and which changes lead from one tree to
another one is said by functions; the steps to the system and back stand at the end.
-/

namespace PlannerTrials.Main

open Files (FileTree Entry Location)
open Host (Machine)

/-! ## What a command can reach -/

/-- The names of a location with the points in it carried out. -/
def withoutPoints (names : Location) : Location :=
  names.foldl (fun above name =>
    if name = FileTree.hereName then above
    else if name = FileTree.upName then above.dropLast
    else above ++ [name]) []

/-- The location of a path that starts in a working folder. -/
def locationOf (here : Location) (path : String) : Location :=
  let names := FileTree.pathNames (Utf8.encodeString path)
  withoutPoints (if path.startsWith "/" then names else here ++ names)

/-- The path of a location. -/
def pathOf (location : Location) : String :=
  "/" ++ String.ofList (Utf8.decodeLossy (FileTree.relativePath location))

/-- The paths that a command names. -/
def commandPaths : Cli.Command → List String
  | .run config output _ => config :: output.toList
  | .report input _ => [input]

/-- The paths that a configuration names. -/
def configPaths (config : Config) : List String :=
  config.benchmarksFolder :: config.outputPath ::
    config.solvers.filterMap fun (_, spec) => spec.workingFolder

/-- What is told of a document that describes no configuration. -/
def complaint (_ : String) : String := "the document describes no configuration"

/-- The locations that a command can reach besides those that it names, when its configuration is read
from what is seen already.  Solvers can reach the whole working folder. -/
def reach (environment : Environment) (seen : FileTree) : Cli.Command → List Location
  | .report _ _ => []
  | .run path output dry =>
    match Config.ofFile complaint environment (seen.read path) with
    | .error _ => []
    | .ok config =>
      let named := (configPaths (Cli.override output config)).map (locationOf seen.workingFolder)
      if dry then named else seen.workingFolder :: named

/-! ## Pictures -/

/-- Files and folders with their locations. -/
abbrev Picture := List (Location × Entry)

/-- A file tree with what a picture shows beside what it has already. -/
def withPicture (t : FileTree) (picture : Picture) : FileTree :=
  { t with entries := picture.foldl (fun entries e =>
      if (entries.lookup e.1).isSome then entries else entries ++ [e]) t.entries }

/-- What has to be done on the disk. -/
inductive Change where
  | removeFile (location : Location)
  | removeFolder (location : Location)
  | makeFolder (location : Location)
  | write (location : Location) (content : Bytes)
  deriving DecidableEq, Repr

/-- How to take an entry away.  What was never seen on the disk is not taken away there. -/
def removal? (location : Location) : Entry → Option Change
  | .file _ => some (.removeFile location)
  | .folder => some (.removeFolder location)
  | .link _ | .device _ | .program _ _ => none

/-- How to make an entry. -/
def making? (location : Location) : Entry → Option Change
  | .file content => some (.write location content)
  | .folder => some (.makeFolder location)
  | .link _ | .device _ | .program _ _ => none

/-- What leads from one tree to another one: first what is gone, the deepest entries before the folders
that hold them, then what is new or has another content, the folders before what they hold. -/
def changes (before after : FileTree) : List Change :=
  let upwards := before.entries.mergeSort fun a b => b.1.length ≤ a.1.length
  let downwards := after.entries.mergeSort fun a b => a.1.length ≤ b.1.length
  let gone := upwards.filterMap fun (location, entry) =>
    if after.get? location = none then removal? location entry else none
  let made := downwards.filterMap fun (location, entry) =>
    if before.get? location = some entry then none else making? location entry
  gone ++ made

/-- The variables that the system lists, each as a name, an equals sign and a value with NUL at the
end.  One that is no text is left out. -/
def variablesOf (listed : Bytes) : List (String × String) :=
  ((Text.segments (· == 0) listed).filterMap Utf8.decodeString?).filterMap fun setting =>
    let cs := setting.toList
    if cs.contains '=' then
      some (String.ofList (cs.takeWhile (· ≠ '=')), String.ofList ((cs.dropWhile (· ≠ '=')).drop 1))
    else none

/-- A number with at least so many digits. -/
def digits (width : Nat) (n : Int) : String :=
  let text := (Nat.toDigits 10 n.toNat)
  String.ofList (List.replicate (width - text.length) '0' ++ text)

/-- A time in UTC, to the microsecond. -/
def timeText (time : Std.Time.PlainDateTime) : String :=
  digits 4 time.date.year.toInt ++ "-" ++ digits 2 time.date.month.toInt ++ "-" ++
    digits 2 time.date.day.toInt ++ "T" ++ digits 2 time.time.hour.toInt ++ ":" ++
    digits 2 time.time.minute.toInt ++ ":" ++ digits 2 time.time.second.val ++ "." ++
    digits 6 (time.time.nanosecond.toInt / 1000) ++ "Z"

/-! ## Steps to the system and back -/

/-- A value from the system, or another one if the system refuses it. -/
def orElse {α : Type} (step : IO α) (other : α) : IO α := do
  match ← step.toBaseIO with
  | .ok value => return value
  | .error _ => return other

/-- No folder lies deeper than this, since its path would be too long. -/
def depthLimit : Nat := FileTree.pathLimit / 2

/-- What stands at a location, and below it down to a depth.  A link counts as what it leads to, but
within a folder that was reached by a link no other link to a folder is followed. -/
def photograph (depth : Nat) (followsLinks : Bool) (location : Location) : IO Picture :=
  match depth with
  | 0 => return []
  | depth + 1 => do
    let place ← IO.FS.realPath (pathOf location)
    match (← place.metadata).type with
    | .file => return [(location, .file (← IO.FS.readBinFile place).toList)]
    | .dir =>
      let below ← (← place.readDir).toList.mapM fun entry => do
        let isLink := (← entry.path.symlinkMetadata).type == .symlink
        if isLink && !followsLinks && (← entry.path.isDir) then return []
        else
          orElse (photograph depth (followsLinks && !isLink)
            (location ++ [Utf8.encodeString entry.fileName])) []
      return (location, .folder) :: below.flatten
    | _ => return []

/-- The folders on the way to a location, and what stands there. -/
def photographWay (location : Location) : IO Picture := do
  let way ← (List.range location.length).mapM fun n => do
    let above := location.take n
    let place ← IO.FS.realPath (pathOf above)
    return if ← place.isDir then [(above, Entry.folder)] else []
  return way.flatten ++ (← photograph depthLimit true location)

/-- A file tree with what can be seen at locations. -/
def extend (t : FileTree) (locations : List Location) : IO FileTree := do
  let pictures ← locations.mapM fun location => orElse (photographWay location) []
  return withPicture t pictures.flatten

/-- Makes a change on the disk. -/
def Change.perform : Change → IO Unit
  | .removeFile location => IO.FS.removeFile (pathOf location)
  | .removeFolder location => IO.FS.removeDir (pathOf location)
  | .makeFolder location => IO.FS.createDirAll (pathOf location)
  | .write location content => IO.FS.writeBinFile (pathOf location) ⟨content.toArray⟩

/-- The time, as it is written in logs and reports. -/
def currentTime : IO String := do
  let now ← Std.Time.Timestamp.now
  return timeText (.ofWallTime (.ofNanoseconds now.toNanosecondsSinceUnixEpoch))

/-- Carries out accepted arguments and gives the exit code. -/
def carryOut (arguments : Cli.Arguments) : IO UInt32 := do
  let bindings := variablesOf (← orElse (IO.FS.readBinFile "/proc/self/environ") .empty).toList
  let environment := Environment.ofVariables bindings
  let here := FileTree.rooted (← IO.currentDir).toString
  let system := { FileTree.system (Host.Tool.programs.map (·, {})) [] with workingFolder := here }
  let seen ← extend system ((commandPaths arguments.command).map (locationOf here))
  let before ← extend seen (reach environment seen arguments.command)
  let time ← currentTime
  let ended := Cli.execute ⟨Machine.disk, Machine.world, complaint⟩ environment time arguments.command
    { files := before, bindings }
  for change in changes before ended.state.files do
    orElse change.perform ()
  let form := Cli.formOf environment time arguments
  for said in ended.said do
    IO.print (said.outputText form)
    IO.eprint said.errorText
  return ended.exitCode.toUInt32

end PlannerTrials.Main

/-- Reads the arguments and carries out what they say. -/
def main (args : List String) : IO UInt32 :=
  match PlannerTrials.Cli.read args with
  | .ok arguments => PlannerTrials.Main.carryOut arguments
  | .error fault => do
    if fault = .help then IO.print fault.answer else IO.eprint fault.answer
    return fault.exitCode.toUInt32
