import PlannerTrials.Host.Shell.Command.Basic

/-!
# Commands that lead a script

Loops and functions are left, scripts are run that are given as texts or stand in files, a program takes
the place of the shell, and signals are sent and trapped.
-/

namespace PlannerTrials.Host

namespace Run

/-! ## Leaving -/

/-- Ends the shell. -/
def exitShell : Action := fun _ _ arguments => do
  let sh ← get
  let status ← match arguments with
    | text :: _ => number text
    | [] => pure (sh.keptStatus.getD sh.status)
  setStatus status
  throw .exit

/-- Leaves the function or the file that runs. -/
def leaveFunction : Action := fun _ _ arguments => do
  let sh ← get
  let status ← match arguments with
    | text :: _ => number text
    | [] => pure sh.status
  modify fun sh => { sh with leaving := .function }
  return status

/-- Leaves some of the loops that run, the last of them for its next round or for good. -/
def leaveLoops (again : Bool) : Action := fun _ _ arguments => do
  let count ← match arguments with
    | text :: _ => do
      let count ← number text
      if count = 0 then raise ("Illegal number: ".toList ++ text) else pure count
    | [] => pure 1
  let count := min count (← get).loops
  if 0 < count then modify fun sh => { sh with leaving := .loops count again }
  return 0

/-! ## Texts as scripts -/

/-- Runs its arguments as a script. -/
def evaluate : Action := fun run mode arguments => do
  if arguments.isEmpty then return 0
  else runText run { tested := mode.tested } (Tool.spaced arguments)

/-- The path of a file that is to be run in the shell. -/
def sourceFile? (name : Raw) : Run (Option Raw) := do
  let sh ← get
  if name.contains '/' then return some name
  else
    let paths := Program.candidates ((sh.stored? "PATH".toList).getD []) name
    return paths.find? (Program.isCandidate sh.files)

/-- Runs a file in the shell. -/
def runFile : Action := fun run _ arguments => do
  let (_, arguments) ← flagsOf "" arguments
  match arguments with
  | [] => return 0
  | name :: _ =>
    match ← sourceFile? name with
    | none => raise (name ++ ": not found".toList)
    | some path =>
      match (← get).files.look (Raw.toString path) with
      | .error fault =>
        raise ("cannot open ".toList ++ path ++ ": ".toList ++
          (if Program.isAbsent fault then "No such file".toList else Tool.faultText fault))
      | .ok (_, .file content) =>
        modify fun sh => { sh with command := some path }
        let status ← runFileText run {} (Raw.ofBytes content)
        modify fun sh => { sh with leaving := if sh.leaving = .function then .nothing else sh.leaving }
        return status
      | .ok _ => return 0

/-- Gives a program the place of the shell. -/
def takePlace : Action := fun run _ arguments => do
  match arguments with
  | [] => return 0
  | name :: rest =>
    let sh ← get
    match Program.find sh.files ((sh.stored? "PATH".toList).getD []) name with
    | .error (fault, code) =>
      warn (name ++ ": ".toList ++ Program.faultText fault)
      setStatus code
      throw .exit
    | .ok program =>
      let ended ← runProgram run 100 program name rest
      setStatus ended.code
      match ended.signal with
      | some signal => throw (.killed signal)
      | none => throw .replaced

/-! ## Signals and processes -/

/-- The number of a signal that an argument names; the end of the script only counts where `ending`
says so. -/
def signalOf? (ending : Bool) (text : Raw) : Option Nat :=
  match Shell.signal? text with
  | some 0 => if ending ∨ (Raw.nat? text).isSome then some 0 else none
  | found => found

/-- The name of a signal. -/
def signalName (n : Nat) : Raw := ((Shell.signalNames.lookup n).getD "").toList

/-- Says what is to be run for signals, or lists it. -/
def trapSignals : Action := fun _ _ arguments => do
  let (_, arguments) ← flagsOf "" arguments
  match arguments with
  | [] =>
    let traps := (← get).traps.mergeSort fun a b => decide (a.1 ≤ b.1)
    finish (traps.flatMap fun (n, action) =>
      "trap -- ".toList ++ asWord action ++ ' ' :: signalName n ++ ['\n']) 0
  | first :: others =>
    let resets := others.isEmpty || (Raw.nat? first).isSome
    set? resets first (if resets then first :: others else others)
where
  /-- Sets the action for signals. -/
  set? (resets : Bool) (action : Raw) : List Raw → Run Nat
    | [] => return 0
    | text :: rest => do
      match signalOf? true text with
      | none =>
        tell ("trap: ".toList ++ text ++ ": bad trap\n".toList)
        return 1
      | some n =>
        modify fun sh =>
          let others := sh.traps.filter (·.1 ≠ n)
          { sh with traps := if resets ∨ action = ['-'] then others else (n, action) :: others }
        set? resets action rest

/-- What is told about a wrong use of `kill`. -/
def killUsage : Raw :=
  "Usage: kill [-s sigspec | -signum | -sigspec] [pid | job]... or\nkill -l [exitstatus]".toList

/-- Lists the signals, or the one that has ended a command with some exit code. -/
def listSignals (arguments : List Raw) : Run Nat := do
  match arguments with
  | [] => finish ("0\n".toList ++ (Shell.signalNames.drop 1).flatMap fun s => s.2.toList ++ ['\n']) 0
  | text :: _ =>
    let n ← number text
    let signal := if 128 < n then n - 128 else n
    if 0 < signal ∧ (Shell.signalNames.lookup signal).isSome then
      finish (signalName signal ++ ['\n']) 0
    else raise ("invalid signal number or exit status: ".toList ++ text)

/-- Sends a signal to processes. -/
def sendSignal (signal : Nat) : List Raw → Run Nat
  | [] => return 0
  | target :: rest => do
    let n ← number target
    let sh ← get
    let own := n = sh.process ∨ n = sh.shellProcess
    if own ∧ signal ≠ 0 then modify fun sh => { sh with signals := sh.signals ++ [(n, signal)] }
    let missing := !own && (sh.finished.lookup n).isNone
    if missing then warn "No such process\n".toList
    let code ← sendSignal signal rest
    return if missing then 1 else code

/-- Sends signals, or lists them. -/
def kill : Action := fun _ _ arguments => do
  match arguments with
  | [] => raise killUsage
  | first :: rest =>
    let (signal, listed, targets) : Option Nat × Bool × List Raw ← match first with
      | '-' :: name =>
        match signalOf? false name with
        | some n => pure (some n, false, rest)
        | none => do
          let (flags, targets) ←
            readFlags [('l', false), ('s', true)] (arguments.length + 1) arguments
          let signal ← match (flags.filter (·.1 = 's')).getLast? with
            | none => pure none
            | some (_, name) =>
              match signalOf? false name with
              | some n => pure (some n)
              | none => raise ("invalid signal number or name: ".toList ++ name)
          pure (signal, flags.any (·.1 = 'l'), targets)
      | _ => pure (none, false, arguments)
    if listed then
      if signal.isSome then raise killUsage else listSignals targets
    else if targets.isEmpty then raise killUsage
    else sendSignal (signal.getD 15) targets

/-- Waits for processes; all that ran beside the script have ended already. -/
def waitFor : Action := fun _ _ arguments => do
  let (_, targets) ← flagsOf "" arguments
  codes targets 0
where
  /-- The code of the last process. -/
  codes : List Raw → Nat → Run Nat
    | [], code => return code
    | target :: rest, _ => do
      if target.head? = some '%' then raise ("No such job: ".toList ++ target)
      else
        let n ← number target
        codes rest (((← get).finished.lookup n).getD 127)

/-! ## What names mean -/

/-- What a command name means, in words where `verbose` says so, and an exit code. -/
def describe (verbose : Bool) (folders : Option Raw) (name : Raw) : Run (Raw × Nat) := do
  let sh ← get
  let text := String.ofList name
  let line (what : Raw) (words : Raw) : Raw × Nat :=
    ((if verbose then name ++ words else what) ++ ['\n'], 0)
  let missing : Raw × Nat := (if verbose then name ++ ": not found\n".toList else [], 127)
  if Token.reserved.contains text then return line name " is a shell keyword".toList
  else
    match sh.aliases.lookup name with
    | some value =>
      return line ("alias ".toList ++ name ++ '=' :: asWord value) (" is an alias for ".toList ++ value)
    | none =>
      if name.contains '/' then
        match sh.files.look (Raw.toString name) with
        | .ok _ => return line name (" is ".toList ++ name)
        | .error _ => return missing
      else if (sh.functions.lookup name).isSome then return line name " is a shell function".toList
      else if Reader.specialCommands.contains text then
        return line name " is a special shell builtin".toList
      else if ordinaryCommands.contains text then return line name " is a shell builtin".toList
      else
        let paths := Program.candidates (folders.getD ((sh.stored? "PATH".toList).getD [])) name
        match paths.find? (Program.isCandidate sh.files) with
        | some path => return line path (" is ".toList ++ path)
        | none => return missing

/-- Tells what names mean. -/
def describeAll : Action := fun _ _ arguments => do
  let results ← arguments.mapM (describe true none)
  finish (results.flatMap (·.1)) (results.foldl (fun code r => code ||| r.2) 0)

/-- Tells what a name means; running what it means is a matter of the command itself. -/
def describeOne : Action := fun _ _ arguments => do
  let (flags, names) ← flagsOf "pvV" arguments
  match names with
  | name :: _ =>
    if flags.contains 'v' ∨ flags.contains 'V' then
      let folders := if flags.contains 'p' then some Program.defaultFolders else none
      let (text, code) ← describe (flags.contains 'V') folders name
      finish text code
    else return 0
  | [] => return 0

/-- Looks for programs. -/
def hashNames : Action := fun _ _ arguments => do
  let (_, names) ← flagsOf "r" arguments
  let codes ← names.mapM fun name => do
    let (_, code) ← describe false none name
    if code ≠ 0 then warn (name ++ ": not found".toList)
    return code
  return if codes.any (· ≠ 0) then 1 else 0

/-- The place of an alias in listings, a number that its name gives. -/
def aliasPlace (name : Raw) : Nat :=
  ((name.head?.map Char.toNat).getD 0 * 16 + (name.map Char.toNat).foldl (· + ·) 0) % 39

/-- Aliases with one more, which takes the place of the one with its name. -/
def withAlias (name value : Raw) (aliases : List (Raw × Raw)) : List (Raw × Raw) :=
  if (aliases.lookup name).isSome then
    aliases.map fun a => if a.1 = name then (name, value) else a
  else aliases ++ [(name, value)]

/-- Lists aliases or takes them in. -/
def setAliases : Action := fun _ _ arguments => do
  let line (name value : Raw) : Raw := name ++ '=' :: asWord value ++ ['\n']
  if arguments.isEmpty then
    let aliases := (← get).aliases.mergeSort fun a b => decide (aliasPlace a.1 ≤ aliasPlace b.1)
    finish (aliases.flatMap fun (name, value) => line name value) 0
  else
    let results ← arguments.mapM fun argument => do
      let name := argument.takeWhile (· ≠ '=')
      match argument.dropWhile (· ≠ '='), (← get).aliases.lookup name with
      | _ :: value, _ =>
        modify fun sh => { sh with aliases := withAlias name value sh.aliases }
        return (([] : Raw), 0)
      | [], some value => return (line name value, 0)
      | [], none =>
        tell ("alias: ".toList ++ name ++ " not found\n".toList)
        return ([], 1)
    finish (results.flatMap (·.1)) (results.foldl (fun code r => code ||| r.2) 0)

/-- Takes aliases away. -/
def unsetAliases : Action := fun _ _ arguments => do
  let (flags, names) ← flagsOf "a" arguments
  if flags.contains 'a' then
    modify fun sh => { sh with aliases := [] }
    return 0
  else
    let codes ← names.mapM fun name => do
      let known := ((← get).aliases.lookup name).isSome
      modify fun sh => { sh with aliases := sh.aliases.filter (·.1 ≠ name) }
      if !known then tell ("unalias: ".toList ++ name ++ " not found\n".toList)
      return if known then 0 else 1
    return if codes.any (· ≠ 0) then 1 else 0

end Run

end PlannerTrials.Host
