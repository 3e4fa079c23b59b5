import PlannerTrials.Files.Setup
import PlannerTrials.Host.Shell.Expansion
import PlannerTrials.Host.Tool.Known
import PlannerTrials.Host.Tool.Launcher

/-!
# Processes and programs

A script or a program runs in a process of its own unless nothing is left to do after it.  What such a
process changes on files and on opened files stays; all else is as before when it has ended.

A program without a slash in its name is looked for in the folders that the variable `PATH` names.
-/

namespace PlannerTrials.Host

open Files (FileTree Fault)

namespace Program

/-- The program to which a path leads. -/
def at? (files : FileTree) (path : Raw) : Except Fault String :=
  match files.look (Raw.toString path) with
  | .ok (_, .program name _) => .ok name
  | .ok _ => .error .denied
  | .error fault => .error fault

/-- Where programs are looked for if nothing else is said. -/
def defaultFolders : Raw := "/usr/local/sbin:/usr/local/bin:/usr/sbin:/usr/bin:/sbin:/bin".toList

/-- The paths at which a program may stand. -/
def candidates (folders name : Raw) : List Raw :=
  (folders.splitOn ':').map fun folder =>
    if folder = [] then name else folder ++ '/' :: name

/-- Whether a fault only says that a program is not there. -/
def isAbsent (fault : Fault) : Bool := fault == .notFound || fault == .notFolder

/-- The first program among paths; of the faults, the last one counts that says more than that a
program is not there. -/
def first? (files : FileTree) (worst : Fault) : List Raw → Except Fault String
  | [] => .error worst
  | path :: rest =>
    match at? files path with
    | .ok name => .ok name
    | .error fault => first? files (if isAbsent fault then worst else fault) rest

/-- Whether a path leads to a file, executable or not. -/
def isCandidate (files : FileTree) (path : Raw) : Bool := files.isFile (Raw.toString path)

/-- The fault at a path where no file is. -/
def faultAt (files : FileTree) (path : Raw) : Fault :=
  match files.look (Raw.toString path) with
  | .ok _ => .denied
  | .error fault => fault

/-- What is told about a fault that kept a program from being launched. -/
def faultText (fault : Fault) : Raw :=
  if isAbsent fault then "not found".toList else Tool.faultText fault

/-- The code of a command that could not be launched. -/
def faultCode (fault : Fault) : Nat :=
  if isAbsent fault ∨ fault = .nameTooLong ∨ fault = .tooManyLinks then 127 else 126

/-- The program that a name in a script means: its name, or a fault and the code for it. -/
def find (files : FileTree) (folders name : Raw) : Except (Fault × Nat) String :=
  if name.contains '/' then
    match at? files name with
    | .ok program => .ok program
    | .error fault => .error (fault, faultCode fault)
  else
    let paths := candidates folders name
    match paths.dropWhile fun path => !isCandidate files path with
    | [] =>
      let worst := paths.foldl
        (fun worst path =>
          let fault := faultAt files path
          if isAbsent fault then worst else fault)
        Fault.notFound
      .error (worst, 127)
    | path :: rest =>
      match first? files .notFound (path :: rest) with
      | .ok program => .ok program
      | .error fault => .error (fault, faultCode fault)

end Program

namespace Run

/-- More rounds than a loop has. -/
def roundLimit : Nat := 1000000

/-! ## Reading and running texts -/

/-- Shows the lines that have been read when so much is unread, if that is asked for; the result is what
has not been read. -/
def showRead (unread : Nat) (unshown : Raw) : Run Raw := do
  let (lines, rest) := Source.splitRead unread unshown
  if (← get).has 'v' then tell lines
  return rest

/-- Reads and runs a text line by line. -/
def runLines (run : Runner) (mode : Mode) : (steps : Nat) → Source → Nat → Run Nat
  | 0, _, status => return status
  | steps + 1, source, status => do
    let sh ← get
    match { source with nextText := sh.nextText, aliases := sh.aliases }.readLine with
    | .error fault =>
      let _ ← showRead fault.unread source.unshown
      let head ← messageHead fault.line
      tell (head ++ "Syntax error: ".toList ++ fault.text ++ ['\n'])
      setStatus 2
      throw .error
    | .ok (none, rest) =>
      let _ ← showRead rest.unread source.unshown
      return status
    | .ok (some script?, rest) =>
      modify fun sh => { sh with nextText := rest.nextText, texts := rest.texts ++ sh.texts }
      let unshown ← showRead rest.unread source.unshown
      let rest := { rest with texts := [], unshown }
      match script? with
      | none => runLines run mode steps rest status
      | some script =>
        let atEnd := match rest.pushed with
          | some .ending => true
          | _ => false
        let status ← run script { mode with last := mode.last && atEnd }
        if (← get).leaving ≠ .nothing then return status
        else runLines run mode steps rest status

/-- Runs the script of a source.  With the texts of aliases it may have more lines than it shows. -/
def runSource (run : Runner) (mode : Mode) (source : Source) : Run Nat :=
  runLines run mode (roundLimit * (source.rest.length + 2)) source 0

/-- Runs a script that is given as text. -/
def runText (run : Runner) (mode : Mode) (text : Raw) : Run Nat :=
  runSource run mode (Source.ofText text 1 0)

/-- Runs a script that stands in a file. -/
def runFileText (run : Runner) (mode : Mode) (text : Raw) : Run Nat :=
  runSource run mode (Source.ofFile text)

/-! ## Signals -/

/-- Takes the signals that have arrived at this process; what they are trapped with is run. -/
def takeSignals (run : Runner) : Run Unit := do
  let sh ← get
  let mine := sh.signals.filter (·.1 = sh.process)
  if mine.isEmpty then pure ()
  else
    set { sh with signals := sh.signals.filter (·.1 ≠ sh.process) }
    mine.forM fun (_, signal) => do
      let sh ← get
      match (if signal = 9 then none else sh.traps.lookup signal) with
      | some [] => pure ()
      | some action =>
        let kept := sh.keptStatus.getD sh.status
        set { sh with keptStatus := some kept }
        let _ ← runText run {} action
        modify fun now => { now with
          status := if now.leaving = .function then now.status else kept
          keptStatus := sh.keptStatus }
      | none => if Shell.harmlessSignals.contains signal then pure () else throw (.killed signal)

/-- Runs what is to be run at the end of a script. -/
def runEnding (run : Runner) : Run Unit := do
  let sh ← get
  match sh.traps.lookup 0 with
  | none => pure ()
  | some action =>
    set { sh with
      traps := sh.traps.filter (·.1 ≠ 0), leaving := .nothing, keptStatus := some sh.status }
    let _ ← runText run {} action
    modify fun now => { now with status := sh.status }

/-! ## Processes -/

/-- How a process has ended. -/
structure Ended where
  code : Nat
  signal : Option Nat := none

/-- Runs up to the end of a process. -/
def toEnd (run : Runner) (act : Run Unit) : Run Ended := do
  let guarded (act : Run Unit) : Run (Option Jump) :=
    tryCatch (do
      act
      return none) fun jump => return some jump
  let jump ← guarded act
  match jump with
  | some (.killed signal) => return ⟨128 + signal, some signal⟩
  | some .replaced => return ⟨(← get).status % 256, none⟩
  | _ =>
    match ← guarded (runEnding run) with
    | some (.killed signal) => return ⟨128 + signal, some signal⟩
    | _ => return ⟨(← get).status % 256, none⟩

/-- The shell as it was before, with what a process has changed for all. -/
def afterProcess (before ended : Shell) : Shell :=
  { before with
    files := ({ ended.files with workingFolder := before.files.workingFolder } : FileTree).seenBy
      (before.launchWords.map Raw.toBytes)
    opened := ended.opened
    texts := ended.texts
    nextText := ended.nextText
    signals := ended.signals
    nextProcess := ended.nextProcess }

/-- Runs in a process of its own; the result is its number and how it ended. -/
def inProcess (run : Runner) (act : Run Unit) : Run (Nat × Ended) := do
  let before ← get
  let number := before.nextProcess
  set { before with
    process := number
    nextProcess := number + 1
    traps := before.traps.filter fun t => t.2 = [] }
  let ended ← toEnd run act
  modify (afterProcess before)
  return (number, ended)

/-- Tells about a process that a signal has ended. -/
def report (ended : Ended) : Run Nat := do
  match ended.signal.bind fun s => Shell.signalTexts.lookup s with
  | some text => tell (text.toList ++ ['\n'])
  | none => pure ()
  return ended.code

/-- Runs in a process of its own and waits for its end. -/
def await (run : Runner) (act : Run Unit) : Run Nat := do
  let (_, ended) ← inProcess run act
  let code ← report ended
  takeSignals run
  return code

/-- Runs a script in this process up to the end of the process. -/
def runWhole (run : Runner) (script : Script) (mode : Mode) : Run Unit := do
  let status ← run script { mode with last := true }
  setStatus status

/-- The output of something that runs in a process of its own. -/
def outputOf (run : Runner) (act : Run Unit) : Run (Raw × Ended) := do
  let n ← openNew { stream := .sink [] 0 false, writable := true }
  let (_, ended) ← inProcess run do
    connect 1 (some n)
    act
  let sh ← get
  let text := match sh.opened[n]? with
    | some ⟨.sink texts _ _, _, _, _, _⟩ => texts.reverse.flatten
    | _ => []
  update n {  stream := .source [] }
  return (text, ended)

/-- The output of a script in a word: without the line feeds at its end, and without NUL. -/
def substitute (run : Runner) : Substitution := fun script? => do
  match script? with
  | none => return []
  | some script =>
    let (text, ended) ← outputOf run (runWhole run script {})
    let code ← report ended
    modify fun sh => { sh with usedStatus := code, status := code }
    takeSignals run
    return (text.reverse.dropWhile (· = '\n')).reverse.filter (· ≠ '\x00')

/-! ## Programs -/

/-- What a program says when its output cannot be written, and its code then. -/
def writeFault (program : String) (name : Raw) (fault : Fault) : Raw × Nat :=
  let text := Tool.faultText fault
  let line (cs : Raw) : Raw := name ++ ": ".toList ++ cs ++ ['\n']
  match program with
  | "grep" => (line ("write error: ".toList ++ text), 2)
  | "wc" => (line "write error".toList, 1)
  | "sort" =>
    (line ("fflush failed: 'standard output': ".toList ++ text) ++ line "write error".toList, 2)
  | "cat" =>
    if fault = .system 9 then (line ("standard output: ".toList ++ text), 1)
    else (line ("write error: ".toList ++ text), 1)
  | _ => (line ("write error: ".toList ++ text), 1)

/-- Writes what a tool has written, up to a fault of the first output. -/
def writeAll (program : String) (name : Raw) (code : Nat) : List Written → Run Nat
  | [] => return code
  | .errors text :: rest => do
    tell text
    writeAll program name code rest
  | .output text :: rest => do
    match ← write 1 text with
    | .ok () => writeAll program name code rest
    | .error fault =>
      let (text, code) := writeFault program name fault
      tell text
      return code

/-- Runs a tool. -/
def runTool (program : String) (tool : Tool) (name : Raw) (arguments : List Raw) : Run Nat := do
  let sh ← get
  let input ← rest 0
  let inputSize ← sizeOf 0
  let outputFile ← locationOf 1
  let files := sh.files.seenBy ((name :: arguments).map Raw.toBytes)
  let result := tool
    { files, environment := sh.exported, name, arguments, input, inputSize, outputFile }
  match result.taken with
  | some 0 => pure ()
  | count => take 0 (if inputSize.isSome then count else none)
  match result.files with
  | some files => modify fun sh => { sh with files }
  | none => pure ()
  writeAll program name result.code result.written

/-- A fresh shell in the place of the one that runs, with the variables that programs see. -/
def becomeShell (name : Raw) (arguments : List Raw) : Run Unit :=
  modify fun sh => { sh with
    files := sh.files.seenBy ((name :: arguments).map Raw.toBytes), launchWords := name :: arguments
    settings := (sh.exported.filter fun v => Word.isName v.1).map fun (name, value) =>
      { name, value := some value, exported := true }
    functions := [], name, arguments := [], status := 0, usedStatus := 0, options := [], line := 0
    functionLine := 0, command := none, loops := 0, leaving := .nothing
    traps := sh.traps.filter fun t => t.2 = []
    frames := [], shellProcess := sh.process, lastBeside := none, finished := []
    optionArgument := 1, optionPlace := none, aliases := [], keptStatus := none }

/-- The letters of the options of a shell. -/
def shellOptions : List Char := "efnuxvaCbmIisEVp".toList

/-- Sets an option or takes it back. -/
def setOption (setting : Bool) (c : Char) : Run Unit :=
  modify fun sh =>
    let others := sh.options.filter (· ≠ c)
    { sh with options := if setting then c :: others else others }

/-- Sets the options that letters name; the result says whether one of them asks for a script as an
argument. -/
def setOptions (setting : Bool) : Raw → Run Bool
  | [] => return false
  | c :: cs => do
    if c = 'c' then
      let _ ← setOptions setting cs
      return true
    else if c = 'l' then setOptions setting cs
    else if shellOptions.contains c then
      setOption setting c
      setOptions setting cs
    else raise ("Illegal option -".toList ++ [c])

/-- The names of options and their letters. -/
def optionNames : List (String × Char) :=
  [("errexit", 'e'), ("noglob", 'f'), ("ignoreeof", 'I'), ("interactive", 'i'), ("monitor", 'm'),
    ("noexec", 'n'), ("stdin", 's'), ("xtrace", 'x'), ("verbose", 'v'), ("vi", 'V'), ("emacs", 'E'),
    ("noclobber", 'C'), ("allexport", 'a'), ("notify", 'b'), ("nounset", 'u'),
    ("privileged", 'p'), ("nolog", 'L'), ("debug", 'D')]

/-- Sets an option by its name. -/
def setNamedOption (setting : Bool) (name : Raw) : Run Unit := do
  match optionNames.lookup (String.ofList name) with
  | some c => setOption setting c
  | none => raise ("Illegal option -o ".toList ++ name)

/-- Reads the options of a shell; the result is whether a script is given as an argument, and the other
arguments. -/
def readShellOptions : (fuel : Nat) → List Raw → Run (Bool × List Raw)
  | fuel + 1, (sign :: cs) :: rest => do
    if sign ≠ '-' ∧ sign ≠ '+' then return (false, (sign :: cs) :: rest)
    else if sign = '-' ∧ (cs = [] ∨ cs = ['-']) then return (false, rest)
    else
      let setting := sign = '-'
      let scripted ← setOptions setting (cs.filter (· ≠ 'o'))
      let rest ← if cs.contains 'o' then
          match rest with
          | name :: rest => do
            setNamedOption setting name
            pure rest
          | [] => pure []
        else pure rest
      let (more, rest) ← readShellOptions fuel rest
      return (scripted || more, rest)
  | _, rest => return (false, rest)

/-- Gives the shell the path of its working folder, the one that its variable names if that leads
there. -/
def findFolder : Run Unit := do
  let sh ← get
  let here := sh.files.workingFolder
  let plain := '/' :: ['/'].intercalate (here.map Raw.ofBytes)
  let folder := match sh.stored? "PWD".toList with
    | some path =>
      match path.head?, sh.files.look (Raw.toString path) with
      | some '/', .ok (location, .folder) => if location = here then path else plain
      | _, _ => plain
    | none => plain
  set ({ sh with folder }.put { name := "PWD".toList, value := some folder, exported := true })

/-- Runs a shell in this process up to its end. -/
def runShell (run : Runner) (name : Raw) (arguments : List Raw) : Run Ended := do
  becomeShell name arguments
  findFolder
  let initial (name : String) (value : Raw) : Run Unit :=
    modify fun sh =>
      if (sh.stored? name.toList).isSome then sh else sh.put { name := name.toList, value := some value }
  initial "PATH" Program.defaultFolders
  initial "PS1" "# ".toList
  initial "PS2" "> ".toList
  initial "PS4" "+ ".toList
  modify fun sh => sh.put { name := "IFS".toList, value := some [' ', '\t', '\n'] }
  modify fun sh => sh.put { name := "OPTIND".toList, value := some ['1'] }
  toEnd run do
    let (scripted, rest) ← readShellOptions (arguments.length + 1) arguments
    let finish (source : Source) (last : Bool) : Run Unit := do
      modify fun sh => { sh with line := 1 }
      let status ← runSource run { last } source
      setStatus status
    let runInput : Run Unit := do
      match ← Run.rest 0 with
      | .ok text =>
        take 0 none
        finish (Source.ofFile text) false
      | .error _ => pure ()
    if rest.isEmpty ∧ !scripted then setOption true 's'
    let fromInput := (← get).has 's'
    match scripted, rest with
    | true, [] => raise "-c requires an argument".toList
    | true, script :: rest =>
      modify fun sh => { sh with name := rest.headD sh.name, arguments := rest.drop 1 }
      finish (Source.ofText script 1 0) !fromInput
      if fromInput then runInput
    | false, file :: rest =>
      if fromInput then
        modify fun sh => { sh with arguments := file :: rest }
        runInput
      else
        match (← get).files.look (Raw.toString file) with
        | .ok (_, .file content) =>
          modify fun sh => { sh with name := file, arguments := rest }
          finish (Source.ofFile (Raw.ofBytes content)) false
        | .ok _ => modify fun sh => { sh with name := file, arguments := rest }
        | .error fault =>
          raise ("cannot open ".toList ++ file ++ ": ".toList ++
            (if Program.isAbsent fault then "No such file".toList else Tool.faultText fault))
    | false, [] => runInput

/-- Runs a program in this process up to its end.  A program that launches another one does it in its
own place. -/
def runProgram (run : Runner) : (levels : Nat) → (program : String) → (name : Raw) → List Raw → Run Ended
  | 0, _, _, _ => return ⟨126, none⟩
  | levels + 1, program, name, arguments => do
    let refuse (text : Raw) (code : Nat) : Run Ended := do
      tell text
      return ⟨code, none⟩
    let misuse (fault : Raw) : Run Ended :=
      refuse ((if fault = [] then [] else name ++ ": ".toList ++ fault ++ ['\n']) ++
        "Try '".toList ++ name ++ " --help' for more information.\n".toList) 125
    let inner (told : Raw) (command : Raw) (rest : List Raw) : Run Ended := do
      let sh ← get
      let folders := (sh.stored? "PATH".toList).getD Program.defaultFolders
      let found := if command.contains '/' then Program.at? sh.files command
        else Program.first? sh.files .notFound (Program.candidates folders command)
      match found with
      | .ok program => runProgram run levels program command rest
      | .error fault =>
        refuse (name ++ ": ".toList ++ told ++ Tool.quoted command ++ ": ".toList ++
          Tool.faultText fault ++ ['\n']) (if fault = .notFound then 127 else 126)
    match program with
    | "sh" | "dash" => runShell run name arguments
    | "env" =>
      let sh ← get
      match Launcher.readChanges (arguments.length + 1) ⟨sh.exported, []⟩ arguments with
      | .error fault => misuse fault
      | .ok ⟨bindings, []⟩ =>
        let shown := bindings.flatMap fun (name, value) => name ++ '=' :: value ++ ['\n']
        return ⟨← writeAll program name 0 [.output shown], none⟩
      | .ok ⟨bindings, command :: rest⟩ =>
        let settings : List Setting := bindings.map fun (name, value) =>
          { name, value := some value, exported := true }
        set { sh with settings }
        inner [] command rest
    | "timeout" =>
      match Launcher.readLimited (arguments.length + 1) arguments with
      | .error fault => misuse fault
      | .ok (command, rest) => inner "failed to run command ".toList command rest
    | program =>
      match Tool.known.lookup program with
      | some tool => return ⟨← runTool program tool name arguments, none⟩
      | none => return ⟨126, none⟩

/-- Launches what a name means, in this process if nothing is left to do after it.  Other folders may
be given than the ones in which programs are usually looked for. -/
def launch (run : Runner) (last : Bool) (folders : Option Raw) (name : Raw) (arguments : List Raw) :
    Run Nat := do
  let sh ← get
  let folders := folders.getD ((sh.stored? "PATH".toList).getD [])
  match Program.find sh.files folders name with
  | .error (fault, code) =>
    warn (name ++ ": ".toList ++ Program.faultText fault)
    setStatus code
    return code
  | .ok program =>
    let act : Run Unit := do
      let ended ← runProgram run 100 program name arguments
      setStatus ended.code
      match ended.signal with
      | some signal => throw (.killed signal)
      | none => pure ()
    if last && sh.traps.isEmpty then
      act
      throw .exit
    else await run act

end Run

end PlannerTrials.Host
