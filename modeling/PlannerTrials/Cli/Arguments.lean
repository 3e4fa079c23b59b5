/-!
# Arguments of the command line

The program has two commands, `run` and `report`.  Each has options of its own, and two switches
belong to both and may stand before or after the name of the command.  An option is a switch, which is on
or off, or a setting, which takes a value: from the rest of its own argument, after an equals sign or
without one, or else from the next argument.

The arguments are read in two levels, the ones before the name of the command and the ones after it.
Reading a level is a recursion on its arguments with what has been found so far.  A setting whose
value is in the next argument is `Pending` until the next option or the end, and only then is its
value examined; that decides which of two mistakes is told.
-/

namespace PlannerTrials.Cli

/-- An option without a value. -/
inductive Switch where
  | verbose
  | jsonLogs
  | dryRun
  | json
  | help
  deriving DecidableEq, Repr

/-- An option with a value. -/
inductive Setting where
  | config
  | output
  | input
  deriving DecidableEq, Repr

/-- An option. -/
inductive Flag where
  | switch (switch : Switch)
  | setting (setting : Setting)
  deriving DecidableEq, Repr

/-- The name of a flag after two dashes. -/
def Flag.long : Flag → String
  | .switch .verbose => "verbose"
  | .switch .jsonLogs => "json-logs"
  | .switch .dryRun => "dry-run"
  | .switch .json => "json"
  | .switch .help => "help"
  | .setting .config => "config"
  | .setting .output => "output"
  | .setting .input => "input"

/-- The letter of a flag after one dash. -/
def Flag.short? : Flag → Option Char
  | .switch .verbose => some 'v'
  | .switch .help => some 'h'
  | .setting .config => some 'c'
  | .setting .output => some 'o'
  | .setting .input => some 'i'
  | _ => none

/-- The arguments of a program are read in levels. -/
inductive Scope where
  /-- Before the name of the command. -/
  | top
  /-- After `run`. -/
  | run
  /-- After `report`. -/
  | report
  deriving DecidableEq, Repr

/-- The flags that may stand on a level. -/
def Scope.flags : Scope → List Flag
  | .top => [.switch .verbose, .switch .jsonLogs, .switch .help]
  | .run => [.setting .config, .setting .output, .switch .dryRun, .switch .verbose,
      .switch .jsonLogs, .switch .help]
  | .report => [.setting .input, .switch .json, .switch .verbose, .switch .jsonLogs, .switch .help]

/-- Why arguments are not accepted. -/
inductive UsageFault where
  | unknownArgument
  | unknownCommand
  | badValue
  | repeatedFlag
  | needlessValue
  | missingCommand
  /-- There are no arguments at all, so help is shown. -/
  | noArguments
  /-- Help was asked for. -/
  | help
  deriving DecidableEq, Repr

/-- The exit code after arguments that are not accepted; asking for help is no mistake. -/
def UsageFault.exitCode : UsageFault → Nat
  | .help => 0
  | _ => 2

/-- The flags found on a level. -/
structure Found where
  switches : List Switch := []
  settings : List (Setting × String) := []
  deriving DecidableEq, Repr

/-- Turns a switch on, once. -/
def Found.turnOn (found : Found) (switch : Switch) : Except UsageFault Found :=
  if switch = .help then .error .help
  else if switch ∈ found.switches then .error .repeatedFlag
  else .ok { found with switches := switch :: found.switches }

/-- Gives a setting its value, once; no value is empty. -/
def Found.give (found : Found) (setting : Setting) (value : String) : Except UsageFault Found :=
  if (found.settings.lookup setting).isSome then .error .repeatedFlag
  else if value = "" then .error .badValue
  else .ok { found with settings := (setting, value) :: found.settings }

/-- A setting that is not yet complete. -/
inductive Pending where
  | none
  /-- Its value must come next. -/
  | expected (setting : Setting)
  /-- Its value has not been examined. -/
  | given (setting : Setting) (value : String)
  deriving DecidableEq, Repr

/-- Completes what is pending. -/
def Pending.resolve (pending : Pending) (found : Found) : Except UsageFault Found :=
  match pending with
  | .none => .ok found
  | .expected _ => .error .badValue
  | .given setting value => found.give setting value

/-- What follows an equals sign at the start, or else the whole. -/
def dropEquals : List Char → List Char
  | '=' :: rest => rest
  | cs => cs

/-- Reads the letters of an argument with one dash. -/
def readLetters (scope : Scope) (pending : Pending) (found : Found) :
    List Char → Except UsageFault (Pending × Found)
  | [] => .ok (pending, found)
  | c :: rest =>
    match scope.flags.find? fun flag => flag.short? = some c with
    | none => .error .unknownArgument
    | some (.switch switch) => do
      let found ← pending.resolve found
      let found ← found.turnOn switch
      readLetters scope .none found rest
    | some (.setting setting) => do
      let found ← pending.resolve found
      if rest = [] then .ok (.expected setting, found)
      else
        let found ← found.give setting (String.ofList (dropEquals rest))
        .ok (.none, found)

/-- Reads an argument with two dashes. -/
def readLong (scope : Scope) (pending : Pending) (found : Found) (text : List Char) :
    Except UsageFault (Pending × Found) :=
  let name := String.ofList (text.takeWhile (· ≠ '='))
  let value? : Option String :=
    match text.dropWhile (· ≠ '=') with
    | [] => none
    | _ :: value => some (String.ofList value)
  match scope.flags.find? fun flag => flag.long = name, value? with
  | none, _ => .error .unknownArgument
  | some (.switch _), some _ => .error .needlessValue
  | some (.switch switch), none => do
    let found ← pending.resolve found
    let found ← found.turnOn switch
    .ok (.none, found)
  | some (.setting setting), some value => do
    let found ← pending.resolve found
    let found ← found.give setting value
    .ok (.none, found)
  | some (.setting setting), none => do
    let found ← pending.resolve found
    .ok (.expected setting, found)

/-- What follows a level. -/
inductive Next where
  | nothing
  | command (scope : Scope) (rest : List String)
  | helpFor (rest : List String)
  deriving DecidableEq, Repr

/-- The names that may follow the top level. -/
def commandNames : List String := ["run", "report", "help"]

/-- Whether a level is followed by a command. -/
def Scope.hasCommands (scope : Scope) : Bool := scope = .top

/-- What a name on a level starts. -/
def Scope.next? (scope : Scope) (name : String) (rest : List String) : Option Next :=
  if !scope.hasCommands then none
  else if name = "run" then some (.command .run rest)
  else if name = "report" then some (.command .report rest)
  else if name = "help" then some (.helpFor rest)
  else none

/-- The fault of an argument that is neither a flag nor a value. -/
def Scope.strayFault (scope : Scope) (name : String) (afterDashes : Bool) : UsageFault :=
  if scope.hasCommands && !(afterDashes && commandNames.contains name) then .unknownCommand
  else .unknownArgument

/-- Reads a level. -/
def readLevel (scope : Scope) (pending : Pending) (found : Found) :
    List String → Except UsageFault (Found × Next)
  | [] => do
    let found ← pending.resolve found
    .ok (found, .nothing)
  | argument :: rest =>
    match argument.toList, pending with
    | ['-', '-'], _ =>
      match rest with
      | [] => do
        let found ← pending.resolve found
        .ok (found, .nothing)
      | stray :: _ => .error (scope.strayFault stray true)
    | '-' :: '-' :: text, _ => do
      let (pending, found) ← readLong scope pending found text
      readLevel scope pending found rest
    | '-' :: c :: text, _ => do
      let (pending, found) ← readLetters scope pending found (c :: text)
      readLevel scope pending found rest
    | _, .expected setting => readLevel scope (.given setting argument) found rest
    | _, _ =>
      match scope.next? argument rest with
      | some next => do
        let found ← pending.resolve found
        .ok (found, next)
      | none => .error (scope.strayFault argument false)

/-- What a command is to do. -/
inductive Command where
  | run (config : String) (output : Option String) (dryRun : Bool)
  | report (input : String) (json : Bool)
  deriving DecidableEq, Repr

/-- The arguments of a program. -/
structure Arguments where
  verbose : Bool
  jsonLogs : Bool
  command : Command
  deriving DecidableEq, Repr

/-- The command that the flags of its level describe. -/
def commandOf (found : Found) : Scope → Command
  | .report =>
    .report ((found.settings.lookup .input).getD "comparison_results.csv")
      (found.switches.contains .json)
  | _ =>
    .run ((found.settings.lookup .config).getD "planner-bench.toml")
      (found.settings.lookup .output) (found.switches.contains .dryRun)

/-- The fault of asking for help on a command. -/
def helpFault : List String → UsageFault
  | [] => .help
  | [name] => if commandNames.contains name then .help else .unknownCommand
  | _ => .unknownCommand

/-- Reads the arguments that follow the name of the program. -/
def read (arguments : List String) : Except UsageFault Arguments := do
  let (top, next) ← readLevel .top .none {} arguments
  match next with
  | .nothing => .error (if top.switches = [] then .noArguments else .missingCommand)
  | .helpFor names => .error (helpFault names)
  | .command scope rest =>
    let (found, _) ← readLevel scope .none {} rest
    .ok {
      verbose := (top.switches ++ found.switches).contains .verbose
      jsonLogs := (top.switches ++ found.switches).contains .jsonLogs
      command := commandOf found scope }

end PlannerTrials.Cli
