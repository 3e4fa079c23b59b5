import PlannerTrials.Host.Shell.Evaluation
import PlannerTrials.Pass.Launch
import PlannerTrials.Pass.Perform

/-!
# Machines

A machine has files, variables and a clock.  It can launch the programs that stand in its files, which
are the shell and the tools; a file that has been written is never a program, since none may be
executed.  A program is launched with an empty input in the folder that it is to work in, and what it
changes on the files stays.  Every launch takes at least one nanosecond.

A program without a slash in its name is looked for in folders, one after the other.
-/

namespace PlannerTrials.Host

open Files (FileTree Fault)

/-- A machine. -/
structure Machine where
  files : FileTree
  /-- The variables with which programs are launched. -/
  bindings : List (String × String)
  now : Elapsed := .none

namespace Machine

/-- The fault of a text with a NUL that is to be handed to a program. -/
def nulInArgument : Fault := .other "nul byte found in provided data"

/-! ## Finding a program -/

/-- The variables as settings, with folders for programs if none are given. -/
def settings (bindings : List (String × String)) : List Setting :=
  let given : List Setting := bindings.map fun (name, value) =>
    let text := Raw.ofString name ++ '=' :: Raw.ofString value
    { name := text.takeWhile (· ≠ '=')
      value := some ((text.dropWhile (· ≠ '=')).drop 1)
      exported := true }
  if given.any (·.name = "PATH".toList) then given
  else
    given ++ [{ name := "PATH".toList, value := some Program.defaultFolders, exported := true }]

/-- Whether looking for a program goes on after a fault. -/
def isPassedOver (fault : Fault) : Bool := Program.isAbsent fault || fault == .denied

/-- The first program among paths.  Looking for it stops at a fault that is not passed over, and a path
that must not be executed is remembered. -/
def searchFrom (files : FileTree) (worst : Fault) : List Raw → Except Fault String
  | [] => .error worst
  | path :: rest =>
    match Program.at? files path with
    | .ok program => .ok program
    | .error fault =>
      if isPassedOver fault then searchFrom files (if fault = .denied then fault else worst) rest
      else .error fault

/-- The program that a name means. -/
def program? (files : FileTree) (folders name : Raw) : Except Fault String :=
  if name = [] then .error .notFound
  else if name.contains '/' then Program.at? files name
  else if FileTree.nameLimit < name.length then .error .nameTooLong
  else searchFrom files .notFound (Program.candidates folders name)

/-- The longest argument that a program can be given. -/
def argumentLimit : Nat := 131071

/-- The most that all arguments of a program may take. -/
def argumentsLimit : Nat := 2097152

/-- Whether a program can be given these arguments. -/
def fits (arguments : List Raw) : Bool :=
  arguments.all (fun a => decide (a.length ≤ argumentLimit)) &&
    decide (arguments.foldl (fun taken a => taken + (a.length + 9)) 0 ≤ argumentsLimit)

/-! ## Launching -/

/-- The number of the process that is launched. -/
def processNumber : Nat := 4711

/-- A shell in which nothing runs yet, with an empty input and two outputs. -/
def startShell (files : FileTree) (settings : List Setting) (name : Raw) : Shell where
  files := files
  opened := #[{ stream := .device .empty, readable := true },
    { stream := .sink [] 0 false, writable := true },
    { stream := .sink [] 0 false, writable := true }]
  channels := [(0, 0), (1, 1), (2, 2)]
  settings := settings
  name := name
  arguments := []
  shellProcess := processNumber
  process := processNumber
  nextProcess := processNumber + 1

/-- What has been written to an opened file. -/
def writtenTo (sh : Shell) (n : Nat) : Bytes :=
  match sh.opened[n]? with
  | some ⟨.sink texts _ _, _, _, _, _⟩ => Raw.toBytes texts.reverse.flatten
  | _ => []

/-- Runs a program to its end. -/
def runToEnd (files : FileTree) (settings : List Setting) (program : String) (name : Raw)
    (arguments : List Raw) : Exit × FileTree :=
  let run := Run.runProgram (Run.eval Run.levelLimit) 100 program name arguments
  let (result, sh) := run.run (startShell files settings name)
  let code := match result with
    | .ok ended => if ended.signal.isSome then none else some (ended.code : Int)
    | .error (.killed _) => none
    | .error _ => some (sh.status : Int)
  (⟨writtenTo sh 1, writtenTo sh 2, code⟩, sh.files)

/-- Launches a program in the working folder. -/
def launchHere (files : FileTree) (bindings : List (String × String)) (program : String)
    (args : List String) : Except Fault (Exit × FileTree) := do
  let settings := settings bindings
  let folders := ((settings.find? (·.name = "PATH".toList)).bind (·.value)).getD []
  let name := Raw.ofString program
  let arguments := args.map Raw.ofString
  let found ← program? files folders name
  if !fits (name :: arguments) then throw .tooManyArguments
  return runToEnd files settings found name arguments

/-- Launches a program in its folder. -/
def launch (files : FileTree) (bindings : List (String × String)) (program : String)
    (args : List String) (folder? : Option String) : Except Fault (Exit × FileTree) :=
  if Launch.hasNul program || args.any Launch.hasNul || (folder?.map Launch.hasNul).getD false then
    .error nulInArgument
  else
    match folder? with
    | none => launchHere files bindings program args
    | some folder =>
      match files.look folder with
      | .error fault => .error fault
      | .ok (location, .folder) =>
        (launchHere { files with workingFolder := location } bindings program args).map
          fun (exit, after) => (exit, { after with workingFolder := files.workingFolder })
      | .ok _ => .error .notFolder

/-- The least time that a launch takes. -/
def tick : Elapsed := ⟨0, 1⟩

/-- The machine after a launch. -/
def tock (machine : Machine) : Machine :=
  { machine with now := .ofParts machine.now.seconds (machine.now.nanos + 1) }

/-- Launches a program on a machine. -/
def launcher : Launch Machine := fun program arguments folder? machine =>
  match launch machine.files machine.bindings program arguments folder? with
  | .ok (exit, files) => ((tick, .ok exit), { machine.tock with files })
  | .error fault => ((tick, .error fault), machine.tock)

/-- The disk of a machine. -/
def disk : Files.Disk Machine where
  read path m := m.files.read path
  makeFolders path m :=
    let (result, files) := FileTree.disk.makeFolders path m.files
    (result, { m with files })
  write path content m :=
    let (result, files) := FileTree.disk.write path content m.files
    (result, { m with files })
  rename source target m :=
    let (result, files) := FileTree.disk.rename source target m.files
    (result, { m with files })

/-- The world of a pass on a machine. -/
def world (config : Config) : World Machine where
  view m := m.files.view
  invoker := ⟨config.invoke launcher, config.announce⟩
  storage := Storage.onDisk disk Storage.here
  clock m := m.now

end Machine

end PlannerTrials.Host
