import PlannerTrials.Host.Shell.Command.Known

/-!
# What scripts do

`Run.step` runs a script, given a way to run the scripts inside of it; `Run.eval` ties the knot for so
many levels of scripts inside of each other, functions that call themselves included.  A shell with
more levels than that runs out of memory and is killed.

A loop is given up after a million rounds.
-/

namespace PlannerTrials.Host

open Files (FileTree Fault)

namespace Run

/-! ## Redirections -/

/-- A redirection with its words replaced. -/
inductive Target where
  | file (channel : Nat) (mode : FileMode) (path : Raw)
  /-- The channel leads where another one leads, or nowhere. -/
  | channel (channel : Nat) (other : Option Nat)
  | text (channel : Nat) (content : Raw)

/-- The target of a redirection. -/
def targetOf (s : Substitution) : Redirect → Run Target
  | .file channel mode word => do return .file channel mode (← textOf s word)
  | .channel channel word => do
    match ← textOf s word with
    | ['-'] => return .channel channel none
    | [c] =>
      if Number.isDigit c then return .channel channel (some (Number.digitsValue 0 [c]))
      else raise "Syntax error: Bad fd number".toList
    | _ => raise "Syntax error: Bad fd number".toList
  | .here channel number => do
    return .text channel (← textOf s (((← get).texts.lookup number).getD []))

/-- The channel for which a path stands. -/
def channelOf? (path : Raw) : Option Nat :=
  match String.ofList path with
  | "/dev/stdin" => some 0
  | "/dev/stdout" => some 1
  | "/dev/stderr" => some 2
  | _ =>
    if "/dev/fd/".toList.isPrefixOf path then Raw.nat? (path.drop 8)
    else if "/proc/self/fd/".toList.isPrefixOf path then Raw.nat? (path.drop 14)
    else none

/-- Opens a file; the result is its number, or a fault. -/
def openFile (mode : FileMode) (path : Raw) : Run (Except Fault Nat) := do
  let sh ← get
  let writable := mode ≠ .reading
  let readable := mode = .reading || mode = .both
  let appending := mode = .appending
  let opened (stream : Stream) : Run (Except Fault Nat) := do
    return .ok (← openNew { stream, appending, readable, writable })
  match channelOf? path with
  | some channel =>
    match sh.channels.lookup channel with
    | some n => return .ok n
    | none => return .error .notFound
  | none =>
    match sh.files.resolve true (Raw.toString path) with
    | .error fault => return .error fault
    | .ok spot =>
      match spot.entry with
      | some .folder => if writable then return .error .isFolder else opened .folder
      | some (.device device) => opened (.device device)
      | some _ =>
        if mode = .writing ∧ sh.has 'C' then return .error .alreadyThere
        else
          if mode = .writing ∨ mode = .replacing then
            set { sh with files := sh.files.put spot.location (.file []) }
          opened (.stored spot.location)
      | none =>
        if !writable then return .error .notFound
        else if spot.folderOnly then return .error .isFolder
        else
          set { sh with files := sh.files.put spot.location (.file []) }
          opened (.stored spot.location)

/-- Lets a channel lead to its target, or says why it cannot. -/
def lead : Target → Run (Option Raw)
  | .channel channel none => do
    connect channel none
    return none
  | .channel channel (some other) => do
    if channel = other then return none
    else
      match (← get).channels.lookup other with
      | none => return some (Number.digits other ++ ": Bad file descriptor".toList)
      | some n =>
        connect channel (some n)
        return none
  | .text channel content => do
    connect channel (some (← openNew { stream := .source content, readable := true }))
    return none
  | .file channel mode path => do
    match ← openFile mode path with
    | .ok n =>
      connect channel (some n)
      return none
    | .error fault =>
      let (verb, absent) := if mode = .reading then ("cannot open ", "No such file")
        else ("cannot create ", "Directory nonexistent")
      return some (verb.toList ++ path ++ ": ".toList ++
        if Program.isAbsent fault then absent.toList else Tool.faultText fault)

/-- Lets channels lead to their targets, up to the first one that cannot. -/
def leadAll : List Target → Run Bool
  | [] => return true
  | target :: rest => do
    match ← lead target with
    | none => leadAll rest
    | some text =>
      warn text
      return false

/-- Does something with the channels redirected, if that is possible. -/
def redirected {α : Type} (keep : Bool) (targets : List Target) (act : Bool → Run α) : Run α := do
  let before := (← get).channels
  ensuring (do act (← leadAll targets)) do
    if !keep then modify fun sh => { sh with channels := before }

/-! ## Simple commands -/

/-- What a command is. -/
inductive Meaning where
  | nothing
  | shell (act : Action)
  | function (line : Nat) (body : Script)
  | program

/-- What has been found out about a simple command. -/
structure Chosen where
  /-- The words that have been replaced, and the others. -/
  words : List Raw
  rest : List Word
  meaning : Meaning := .nothing
  /-- Whether the first command of the shell in it is special. -/
  special : Option Bool := none
  /-- Whether assignments are taken back afterwards. -/
  passing : Bool := false
  noFunctions : Bool := false
  /-- The folders in which a program is looked for, if they are not the usual ones. -/
  folders : Option Raw := none

/-- The fields of the first word that has any, and the words after it. -/
def firstFields (s : Substitution) : List Word → Run (List Raw × List Word)
  | [] => return ([], [])
  | word :: words => do
    match ← fieldsOf s word with
    | [] => firstFields s words
    | fields => return (fields, words)

/-- What a name means. -/
def meaningOf (noFunctions : Bool) (name : Raw) : Run Meaning := do
  if name.contains '/' then return .program
  else
    let sh ← get
    match if noFunctions then none else sh.functions.lookup name with
    | some (line, body) => return .function line body
    | none =>
      match action? (String.ofList name) with
      | some act => return .shell act
      | none => return .program

/-- Goes over the options of `command`: whether it asks for the usual programs, if it runs another
command at all; the words that have been gone over, backwards; the words after them; and the others. -/
def skipOptions (s : Substitution) : (fuel : Nat) → (usual : Bool) → (passed ahead : List Raw) →
    List Word → Run (Option Bool × List Raw × List Raw × List Word)
  | 0, _, passed, ahead, rest => return (none, passed, ahead, rest)
  | fuel + 1, usual, passed, ahead, rest => do
    let (ahead, rest) ← if ahead.isEmpty then firstFields s rest else pure (ahead, rest)
    match ahead with
    | [] => return (none, passed, [], rest)
    | ['-', '-'] :: more =>
      let (more, rest) ← if more.isEmpty then firstFields s rest else pure (more, rest)
      return (if more.isEmpty then none else some usual, ['-', '-'] :: passed, more, rest)
    | ('-' :: c :: cs) :: more =>
      if (c :: cs).all (· = 'p') then skipOptions s fuel true (('-' :: c :: cs) :: passed) more rest
      else return (none, passed, ahead, rest)
    | ahead => return (some usual, passed, ahead, rest)

/-- Finds out what a simple command is. -/
def choose (s : Substitution) : (fuel : Nat) → Chosen → Run Chosen
  | 0, c => return c
  | fuel + 1, c => do
    match c.words with
    | [] => return c
    | name :: more =>
      match ← meaningOf c.noFunctions name with
      | .shell act =>
        let text := String.ofList name
        let special := isSpecialCommand text
        let c := match c.special with
          | none => { c with special := some special, passing := !special }
          | some _ => { c with passing := true }
        if text ≠ "command" then return { c with meaning := .shell act }
        else
          let (usual, passed, ahead, rest) ← skipOptions s 1000 false [] more c.rest
          match usual with
          | none =>
            return { c with words := name :: (passed.reverse ++ ahead), rest, meaning := .shell act }
          | some usual =>
            let folders := if usual then some Program.defaultFolders else c.folders
            choose s fuel { c with words := ahead, rest, folders, noFunctions := true }
      | meaning => return { c with meaning, passing := true }

/-- The fields of words, of which some may be assignments. -/
def argumentFields (s : Substitution) (assigning : Bool) : List Word → Run (List Raw)
  | [] => return []
  | word :: words => do
    let fields ← match if assigning then Word.assignment? word else none with
      | some (name, value) => do pure [name ++ '=' :: (← assignedText s value)]
      | none => fieldsOf s word
    return fields ++ (← argumentFields s assigning words)

/-- Assigns variables before a command; the result is how the assignments are shown. -/
def assignAll (s : Substitution) (passing exporting : Bool) : List (Raw × Word) → Run (List Raw)
  | [] => return []
  | (name, word) :: rest => do
    let value ← assignedText s word
    if passing then makeLocal name
    assign name value (passing || exporting)
    return (name ++ '=' :: value) :: (← assignAll s passing exporting rest)

/-- Shows a command before it is run, where the channel for errors led before. -/
def trace (outer : List (Nat × Nat)) (words : List Raw) : Run Unit := do
  let sh ← get
  if sh.has 'x' then
    set { sh with channels := outer }
    ensuring (tell ((sh.stored? "PS4".toList).getD [] ++ Tool.spaced words ++ ['\n']))
      (modify fun now => { now with channels := sh.channels })

/-- Calls a function. -/
def call (run : Runner) (mode : Mode) (line : Nat) (body : Script) (arguments : List Raw) :
    Run Nat := do
  let before ← get
  set { before with
    arguments, optionArgument := 1, optionPlace := none, functionLine := line, loops := 0 }
  let _ ← ensuring (run body { tested := mode.tested }) (modify fun sh => { sh with
    arguments := before.arguments
    optionArgument := before.optionArgument
    optionPlace := before.optionPlace
    functionLine := before.functionLine
    loops := before.loops
    leaving := if sh.leaving = .function then .nothing else sh.leaving })
  return (← get).status

/-- Runs a command of the shell.  An error in it only ends the shell if the command is special. -/
def perform (run : Runner) (mode : Mode) (special : Bool) (act : Action) (name : Raw)
    (arguments : List Raw) : Run Nat :=
  tryCatch (withCommand (some name) (act run mode arguments)) fun jump => do
    if jump = .error && !special then return (← get).status else throw jump

/-- Runs a simple command. -/
def simple (run : Runner) (mode : Mode) (line : Nat) (assignments : List (Raw × Word))
    (words : List Word) (redirects : List Redirect) : Run Nat := do
  let s := substitute run
  atLine line
  modify fun sh => { sh with usedStatus := 0 }
  let (first, others) ← firstFields s words
  let c ← choose s 1000 { words := first, rest := others }
  let name := c.words.headD []
  let text := String.ofList name
  let isShell := match c.meaning with
    | .shell _ => true
    | _ => false
  let all := c.words ++ (← argumentFields s (isShell && takesAssignments text) c.rest)
  let arguments := all.drop 1
  let special := c.special.getD false
  let takesPlace := isShell && text = "exec"
  let outer := (← get).channels
  if c.passing then pushFrame
  ensuring
    (do
      let targets ← redirects.mapM (targetOf s)
      redirected takesPlace targets fun possible => do
        if !possible then
          setStatus 2
          if special then throw .error else return 2
        else
          let shown ← assignAll s c.passing (takesPlace && !arguments.isEmpty) assignments
          trace outer (shown ++ all)
          match c.meaning with
          | .nothing => return (← get).usedStatus
          | .shell act => perform run mode special act name arguments
          | .function line body => call run mode line body arguments
          | .program => launch run mode.last c.folders name arguments)
    (if c.passing then popFrame else pure ())

/-! ## Parts in processes of their own -/

/-- Runs the stages of a pipeline, each with the output of the one before as its input. -/
def stages (run : Runner) (tested : Bool) : (input : Option Raw) → List Script → Run (List Ended)
  | _, [] => return []
  | input, stage :: rest => do
    let source ← match input with
      | some text => do pure (some (← openNew { stream := .source text, readable := true }))
      | none => pure none
    let sink ← if rest.isEmpty then pure none
      else do pure (some (← openNew { stream := .sink [] 0 true, writable := true }))
    let (_, ended) ← inProcess run do
      if source.isSome then connect 0 source
      if sink.isSome then connect 1 sink
      runWhole run stage { tested }
    let sh ← get
    let output := match sink.bind fun n => sh.opened[n]? with
      | some ⟨.sink texts _ _, _, _, _, _⟩ => texts.reverse.flatten
      | _ => []
    return ended :: (← stages run tested (some output) rest)

/-- Runs a pipeline; its code is the one of the last stage. -/
def pipeline (run : Runner) (mode : Mode) (scripts : List Script) : Run Nat := do
  let codes ← (← stages run mode.tested none scripts).mapM report
  takeSignals run
  return codes.getLastD 0

/-- Runs a script beside the rest; here it ends before the rest goes on. -/
def aside (run : Runner) (line : Nat) (body : Script) : Run Nat := do
  atLine line
  let (number, ended) ← inProcess run do
    connect 0 (some (← openNew { stream := .device .empty, readable := true }))
    runWhole run body {}
  modify fun sh => { sh with
    lastBeside := some number, finished := (number, ended.code) :: sh.finished }
  takeSignals run
  return 0

/-- Runs a script in a shell of its own. -/
def inside (run : Runner) (mode : Mode) (line : Nat) (redirects : List Redirect) (body : Script) :
    Run Nat := do
  atLine line
  let targets ← redirects.mapM (targetOf (substitute run))
  let act : Run Unit := do
    if ← leadAll targets then runWhole run body { tested := mode.tested }
    else
      setStatus 2
      throw .error
  if mode.last && (← get).traps.isEmpty then
    act
    throw .exit
  else await run act

/-! ## Loops and branches -/

/-- What loops that are being left mean for the innermost one: whether it goes on. -/
def goesOn : Run Bool := do
  match (← get).leaving with
  | .nothing => return true
  | .function => return false
  | .loops count again =>
    if count ≤ 1 then
      modify fun sh => { sh with leaving := .nothing }
      return again
    else
      modify fun sh => { sh with leaving := .loops (count - 1) again }
      return false

/-- Runs the rounds of something that is a loop. -/
def asLoop (rounds : Run Nat) : Run Nat := do
  modify fun sh => { sh with loops := sh.loops + 1 }
  ensuring rounds (modify fun sh => { sh with loops := sh.loops - 1 })

/-- The rounds of a loop with a condition. -/
def rounds (run : Runner) (tested untilTrue : Bool) (condition body : Script) : (fuel : Nat) →
    (status : Nat) → Run Nat
  | 0, _ => throw (.killed 9)
  | fuel + 1, status => do
    let code ← run condition { tested := true }
    if (← get).leaving ≠ .nothing then
      let status := if (← get).leaving = .function then code else status
      if ← goesOn then rounds run tested untilTrue condition body fuel status else return status
    else if (code = 0) = untilTrue then return status
    else
      let status ← run body { tested }
      if ← goesOn then rounds run tested untilTrue condition body fuel status else return status

/-- The rounds of a loop over words. -/
def roundsOver (run : Runner) (tested : Bool) (name : Raw) (body : Script) : List Raw →
    (status : Nat) → Run Nat
  | [], status => return status
  | value :: values, _ => do
    assign name value false
    let status ← run body { tested }
    if ← goesOn then roundsOver run tested name body values status else return status

/-- Whether one of several patterns matches a text. -/
def matchesOne (s : Substitution) (text : Raw) : List Word → Run Bool
  | [] => return false
  | word :: words => do
    if (← patternOf s word).matchesAll text then return true else matchesOne s text words

/-- Runs the first branch of which a pattern matches. -/
def branch (run : Runner) (mode : Mode) (text : Raw) :
    List (List Word × Option Script) → Run Nat
  | [] => return 0
  | (patterns, body) :: rest => do
    if ← matchesOne (substitute run) text patterns then
      match body with
      | some script => run script mode
      | none => return 0
    else branch run mode text rest

/-! ## All scripts -/

/-- Runs a script with a way to run the scripts inside of it. -/
def step (run : Runner) : Runner := fun script mode => do
  let ended (status : Nat) (checked : Bool) : Run Nat := do
    setStatus status
    takeSignals run
    if checked && !mode.tested && status ≠ 0 && (← get).has 'e' then throw .exit
    return (← get).status
  let stopped : Run Nat := do
    takeSignals run
    return (← get).status
  if (← get).has 'n' then stopped
  else
    takeSignals run
    match script with
    | .simple line assignments words redirects =>
      ended (← simple run mode line assignments words redirects) true
    | .redirected line redirects body =>
      atLine line
      let targets ← redirects.mapM (targetOf (substitute run))
      let status ← redirected false targets fun possible =>
        if possible then run body { tested := mode.tested } else return 2
      ended status false
    | .sequence first second =>
      let _ ← run first { tested := mode.tested }
      if (← get).leaving ≠ .nothing then stopped else ended (← run second mode) false
    | .andThen first second =>
      let status ← run first { tested := true }
      if status ≠ 0 ∨ (← get).leaving ≠ .nothing then stopped else ended (← run second mode) false
    | .orElse first second =>
      let status ← run first { tested := true }
      if status = 0 ∨ (← get).leaving ≠ .nothing then stopped else ended (← run second mode) false
    | .negated body =>
      let status ← run body { tested := true }
      ended (if status = 0 then 1 else 0) false
    | .piped scripts => ended (← pipeline run mode scripts) true
    | .beside line body => ended (← aside run line body) true
    | .inside line redirects body => ended (← inside run mode line redirects body) true
    | .choose condition yes no =>
      let status ← run condition { tested := true }
      if (← get).leaving ≠ .nothing then stopped
      else if status = 0 then ended (← run yes mode) false
      else
        match no with
        | some no => ended (← run no mode) false
        | none => ended 0 false
    | .loop untilTrue condition body =>
      ended (← asLoop (rounds run mode.tested untilTrue condition body roundLimit 0)) false
    | .each line name words body =>
      atLine line
      let values ← allFields (substitute run) words
      ended (← asLoop (roundsOver run mode.tested name body values 0)) false
    | .select line word branches =>
      atLine line
      let text ← textOf (substitute run) word
      ended (← branch run mode text branches) false
    | .function line name body =>
      modify fun sh => { sh with
        functions := (name, line, body) :: sh.functions.filter fun f => f.1 ≠ name }
      ended 0 false

/-- The levels of scripts inside of each other for which there is memory. -/
def levelLimit : Nat := 4000

/-- Runs a script with so many levels of scripts inside of it. -/
def eval : (levels : Nat) → Runner
  | 0 => fun _ _ => throw (.killed 11)
  | levels + 1 => step (eval levels)

end Run

end PlannerTrials.Host
