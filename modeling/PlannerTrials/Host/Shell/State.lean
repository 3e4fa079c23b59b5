import PlannerTrials.Environment
import PlannerTrials.Files.Tree
import PlannerTrials.Host.Script.Grammar

/-!
# The state of a shell

A shell runs in a process.  All processes see the same files and the same opened files, each of which has
a place where reading and writing goes on; which opened file a channel leads to is a matter of each
process, as are the variables.  A part of a script that runs in a process of its own is run to its
end before the other parts go on, which shows the same outputs.

What stops a script before its end is a `Jump`.
-/

namespace PlannerTrials.Host

open Files (FileTree Fault)

/-- Where an opened file leads. -/
inductive Stream where
  /-- A file in the tree. -/
  | stored (location : Files.Location)
  | device (device : Files.Device)
  | folder
  /-- What is left of a text that can be read once. -/
  | source (rest : Raw)
  /-- What has been written, the latest first, and its size.  Where `narrow` says so, nobody reads
  more of it than a fair amount. -/
  | sink (texts : List Raw) (size : Nat) (narrow : Bool)

/-- An opened file. -/
structure Opened where
  stream : Stream
  /-- The place in a file where reading and writing goes on. -/
  offset : Nat := 0
  appending : Bool := false
  readable : Bool := false
  writable : Bool := false

/-- A variable; one without value is only marked. -/
structure Setting where
  name : Raw
  value : Option Raw
  exported : Bool := false
  fixed : Bool := false

/-- What is left while loops or functions are being left. -/
inductive Leaving where
  | nothing
  /-- Some loops are left, the last of them for its next round or for good. -/
  | loops (count : Nat) (again : Bool)
  | function
  deriving DecidableEq

/-- How a script is run. -/
structure Mode where
  /-- The code of the script is only asked for. -/
  tested : Bool := false
  /-- Nothing is left to do after the script. -/
  last : Bool := false

/-- What stops a script. -/
inductive Jump where
  | exit
  /-- An error has been told. -/
  | error
  /-- A program has run in the place of the shell. -/
  | replaced
  | killed (signal : Nat)
  deriving DecidableEq

/-- A shell. -/
structure Shell where
  files : FileTree
  opened : Array Opened
  /-- The opened files to which the channels lead. -/
  channels : List (Nat × Nat)
  settings : List Setting
  functions : List (Raw × Nat × Script) := []
  /-- The name of the script. -/
  name : Raw
  arguments : List Raw
  /-- The here-documents. -/
  texts : List (Nat × Word) := []
  nextText : Nat := 0
  status : Nat := 0
  /-- The code of the last command whose output was used in a word. -/
  usedStatus : Nat := 0
  options : List Char := []
  line : Nat := 1
  /-- The line of the function that runs, or zero. -/
  functionLine : Nat := 0
  /-- The command of the shell that runs. -/
  command : Option Raw := none
  loops : Nat := 0
  leaving : Leaving := .nothing
  /-- What is run for signals; the end of the script has the number zero. -/
  traps : List (Nat × Raw) := []
  /-- Signals that have arrived at processes. -/
  signals : List (Nat × Nat) := []
  /-- The former settings of local variables. -/
  frames : List (List (Raw × Option Setting)) := []
  /-- The number of the first shell and of this process, and the next free number. -/
  shellProcess : Nat
  process : Nat
  nextProcess : Nat
  /-- The last process beside the script. -/
  lastBeside : Option Nat := none
  /-- The processes beside the script with their codes. -/
  finished : List (Nat × Nat) := []
  /-- The argument, and the letter in the one before, at which options of a script are read on. -/
  optionArgument : Nat := 1
  optionPlace : Option Nat := none
  /-- The working folder as it was reached, perhaps through links. -/
  folder : Raw := ['/']
  /-- The rights that new files do not get. -/
  mask : Nat := 18
  aliases : List (Raw × Raw) := []
  /-- The words with which the shell was launched. -/
  launchWords : List Raw := []
  /-- The exit code with which a script ends whose last commands are run for a signal. -/
  keptStatus : Option Nat := none

/-- Running in a shell. -/
abbrev Run := ExceptT Jump (StateM Shell)

/-- A way to run scripts; the result is the exit code. -/
abbrev Runner := Script → Mode → Run Nat

namespace Shell

/-! ## Variables -/

/-- The variable with a name. -/
def setting? (sh : Shell) (name : Raw) : Option Setting := sh.settings.find? fun v => v.name = name

/-- The value of a variable. -/
def stored? (sh : Shell) (name : Raw) : Option Raw := (sh.setting? name).bind (·.value)

/-- Puts a variable in the place of the one with its name. -/
def put (sh : Shell) (v : Setting) : Shell :=
  { sh with settings := v :: sh.settings.filter fun w => w.name ≠ v.name }

/-- Takes a variable away. -/
def remove (sh : Shell) (name : Raw) : Shell :=
  { sh with settings := sh.settings.filter fun w => w.name ≠ name }

/-- The variables that programs see. -/
def exported (sh : Shell) : List (Raw × Raw) :=
  sh.settings.filterMap fun v => if v.exported then v.value.map fun value => (v.name, value) else none

/-- Whether an option is set. -/
def has (sh : Shell) (option : Char) : Bool := sh.options.contains option

/-- The order in which options are shown. -/
def optionOrder : List Char := "pubaCEVvxsnmiIfe".toList

/-- The characters at which words are split. -/
def separators (sh : Shell) : Raw := (sh.stored? "IFS".toList).getD [' ', '\t', '\n']

/-- What stands between arguments that are put together. -/
def glue (sh : Shell) : Raw :=
  match sh.stored? "IFS".toList with
  | some cs => cs.take 1
  | none => [' ']

/-- The value of a variable or of what is named by a special character. -/
def value? (sh : Shell) (name : Raw) : Option Raw :=
  match name with
  | ['#'] => some (Number.digits sh.arguments.length)
  | ['?'] => some (Number.digits sh.status)
  | ['$'] => some (Number.digits sh.shellProcess)
  | ['-'] => some (optionOrder.filter sh.has)
  | ['!'] => sh.lastBeside.map Number.digits
  | ['@'] | ['*'] => some (sh.glue.intercalate sh.arguments)
  | _ =>
    match Raw.nat? name with
    | some 0 => some sh.name
    | some n => sh.arguments[n - 1]?
    | none => sh.stored? name

/-! ## Signals -/

/-- The names of the signals by their numbers. -/
def signalNames : List (Nat × String) := [(0, "EXIT"), (1, "HUP"), (2, "INT"), (3, "QUIT"),
  (4, "ILL"), (5, "TRAP"), (6, "ABRT"), (7, "BUS"), (8, "FPE"), (9, "KILL"), (10, "USR1"),
  (11, "SEGV"), (12, "USR2"), (13, "PIPE"), (14, "ALRM"), (15, "TERM"), (16, "STKFLT"),
  (17, "CHLD"), (18, "CONT"), (19, "STOP"), (20, "TSTP"), (21, "TTIN"), (22, "TTOU"), (23, "URG"),
  (24, "XCPU"), (25, "XFSZ"), (26, "VTALRM"), (27, "PROF"), (28, "WINCH"), (29, "IO"), (30, "PWR"),
  (31, "SYS")]

/-- What is told about a process that a signal has ended, unless nothing is. -/
def signalTexts : List (Nat × String) := [(1, "Hangup"), (3, "Quit"), (4, "Illegal instruction"),
  (5, "Trace/breakpoint trap"), (6, "Aborted"), (7, "Bus error"), (8, "Floating point exception"),
  (9, "Killed"), (10, "User defined signal 1"), (11, "Segmentation fault"),
  (12, "User defined signal 2"), (14, "Alarm clock"), (15, "Terminated"), (16, "Stack fault"),
  (24, "CPU time limit exceeded"), (25, "File size limit exceeded"), (26, "Virtual timer expired"),
  (27, "Profiling timer expired"), (29, "I/O possible"), (30, "Power failure"),
  (31, "Bad system call")]

/-- The signals that do nothing by themselves, or stop a process that nobody continues. -/
def harmlessSignals : List Nat := [17, 18, 19, 20, 21, 22, 23, 28]

/-- The number of the signal that a text names, in letters of either case. -/
def signal? (text : Raw) : Option Nat :=
  match Raw.nat? text with
  | some n => if n < 65 then some n else none
  | none =>
    (signalNames.find? fun s => s.2.toList = text.map Char.toUpper).map (·.1)

end Shell

namespace Run

/-! ## Channels -/

/-- The opened file to which a channel leads. -/
def opened? (channel : Nat) : Run (Option (Nat × Opened)) := do
  let sh ← get
  match sh.channels.lookup channel with
  | none => return none
  | some n => return (sh.opened[n]?).map fun o => (n, o)

/-- Changes an opened file. -/
def update (n : Nat) (o : Opened) : Run Unit :=
  modify fun sh => { sh with opened := sh.opened.setIfInBounds n o }

/-- Opens a file; the result is its number. -/
def openNew (o : Opened) : Run Nat := do
  let n := (← get).opened.size
  modify fun sh => { sh with opened := sh.opened.push o }
  return n

/-- Lets a channel lead to an opened file, or to none. -/
def connect (channel : Nat) (n? : Option Nat) : Run Unit :=
  modify fun sh =>
    let others := sh.channels.filter (·.1 ≠ channel)
    { sh with channels := match n? with
      | some n => (channel, n) :: others
      | none => others }

/-- The content of the file at a location. -/
def contentAt (l : Files.Location) : Run Bytes := do
  match (← get).files.get? l with
  | some (.file content) => return content
  | _ => return []

/-- More than this is not read from a text that is written by a command for another one. -/
def narrowLimit : Nat := 262144

/-- Writes a text to a channel. -/
def write (channel : Nat) (text : Raw) : Run (Except Fault Unit) := do
  if text = [] then return .ok ()
  match ← opened? channel with
  | none => return .error (.system 9)
  | some (n, o) =>
    if !o.writable then return .error (.system 9)
    else
      match o.stream with
      | .stored l =>
        let before ← contentAt l
        let offset := if o.appending then before.length else o.offset
        let bytes := Raw.toBytes text
        let head := before.take offset ++ List.replicate (offset - before.length) 0
        let content := head ++ bytes ++ before.drop (offset + bytes.length)
        modify fun sh => { sh with files := sh.files.put l (.file content) }
        update n { o with offset := offset + bytes.length }
        return .ok ()
      | .sink texts size narrow =>
        if narrow ∧ narrowLimit < size then throw (.killed 13)
        else
          update n { o with stream := .sink (text :: texts) (size + text.length) narrow }
          return .ok ()
      | .device .empty | .device .zeros => return .ok ()
      | .device .full => return .error .noSpace
      | _ => return .error (.system 9)

/-- What is left to read from a channel. -/
def rest (channel : Nat) : Run (Except Fault Raw) := do
  match ← opened? channel with
  | none => return .error (.system 9)
  | some (_, o) =>
    if !o.readable then return .error (.system 9)
    else
      match o.stream with
      | .stored l => return .ok (Raw.ofBytes ((← contentAt l).drop o.offset))
      | .source rest => return .ok rest
      | .folder => return .error .isFolder
      | .device device => return .ok (Raw.ofBytes device.content)
      | _ => return .ok []

/-- The size of the file to which a channel leads, if it is one. -/
def sizeOf (channel : Nat) : Run (Option Nat) := do
  match ← opened? channel with
  | some (_, ⟨.stored l, _, _, _, _⟩) => return some (← contentAt l).length
  | _ => return none

/-- The location of the file to which a channel leads, if it is one. -/
def locationOf (channel : Nat) : Run (Option Files.Location) := do
  match ← opened? channel with
  | some (_, ⟨.stored l, _, _, _, _⟩) => return some l
  | _ => return none

/-- Takes so many characters from a channel, or all. -/
def take (channel : Nat) (count : Option Nat) : Run Unit := do
  match ← opened? channel with
  | none => pure ()
  | some (n, o) =>
    match o.stream with
    | .stored l =>
      let size := (← contentAt l).length
      let offset := match count with
        | some k => o.offset + k
        | none => max o.offset size
      update n { o with offset }
    | .source rest =>
      update n { o with stream := .source (match count with
        | some k => rest.drop k
        | none => []) }
    | _ => pure ()

/-! ## Messages -/

/-- Tells something on the channel for errors. -/
def tell (text : Raw) : Run Unit := do
  let _ ← write 2 text

/-- The head of messages: the name of the script, the line and the command. -/
def messageHead (line : Nat) : Run Raw := do
  let sh ← get
  let command := match sh.command with
    | some name => name ++ ": ".toList
    | none => []
  return sh.name ++ ": ".toList ++ Number.digits line ++ ": ".toList ++ command

/-- Tells about something that went wrong. -/
def warn (text : Raw) : Run Unit := do
  let head ← messageHead (← get).line
  tell (head ++ text ++ ['\n'])

/-- Gives the shell an exit code. -/
def setStatus (status : Nat) : Run Unit := modify fun sh => { sh with status }

/-- Tells about an error and ends with it. -/
def raise {α : Type} (text : Raw) : Run α := do
  warn text
  setStatus 2
  throw .error

/-! ## Variables -/

/-- Gives a variable a value, and exports it if asked to. -/
def assign (name value : Raw) (exporting : Bool) : Run Unit := do
  let sh ← get
  let old := sh.setting? name
  if (old.map (·.fixed)).getD false then raise (name ++ ": is read only".toList)
  else
    let exported := exporting || sh.has 'a' || (old.map (·.exported)).getD false
    if name = "OPTIND".toList then
      match Raw.nat? value with
      | some n => modify fun sh => { sh with optionArgument := max n 1, optionPlace := none }
      | none => raise ("Illegal number: ".toList ++ value)
    modify fun sh => sh.put { name, value := some value, exported }

/-- Takes a variable away. -/
def unset (name : Raw) : Run Unit := do
  let sh ← get
  if ((sh.setting? name).map (·.fixed)).getD false then raise (name ++ ": is read only".toList)
  else set (sh.remove name)

/-- Makes a variable local to what runs. -/
def makeLocal (name : Raw) : Run Unit :=
  modify fun sh =>
    match sh.frames with
    | [] => sh
    | frame :: frames =>
      if frame.any (·.1 = name) then sh
      else { sh with frames := ((name, sh.setting? name) :: frame) :: frames }

/-- Starts to keep the former settings of variables. -/
def pushFrame : Run Unit := modify fun sh => { sh with frames := [] :: sh.frames }

/-- Gives local variables their former settings back. -/
def popFrame : Run Unit :=
  modify fun sh =>
    match sh.frames with
    | [] => sh
    | frame :: frames =>
      frame.foldl
        (fun sh (name, old) =>
          match old with
          | some v => sh.put v
          | none => sh.remove name)
        { sh with frames }

/-- Does something, and after it something else, also if the first ends with a jump. -/
def ensuring {α : Type} (first : Run α) (after : Run Unit) : Run α := do
  let result ← tryCatch (do return Except.ok (← first)) fun jump => return Except.error jump
  after
  match result with
  | .ok a => return a
  | .error jump => throw jump

/-- Runs with a command of the shell as the one that messages name. -/
def withCommand {α : Type} (name : Option Raw) (act : Run α) : Run α := do
  let before := (← get).command
  modify fun sh => { sh with command := name }
  ensuring act (modify fun sh => { sh with command := before })

/-- The line in a script as messages show it. -/
def atLine (line : Nat) : Run Unit :=
  modify fun sh =>
    { sh with line }

end Run

end PlannerTrials.Host
