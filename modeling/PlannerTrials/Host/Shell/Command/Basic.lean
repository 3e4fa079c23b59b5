import PlannerTrials.Host.Shell.Process

/-!
# Commands of the shell

A command of the shell is an `Action`.  It runs in the shell itself and not in a process of its own, so
that it can change variables, channels and the working folder.

What it complains about is told at once, but its output is written when it has done its work, and only
then it is noticed that nothing can be written.
-/

namespace PlannerTrials.Host

/-- What a command of the shell does with its arguments; the result is its exit code. -/
abbrev Action := Runner → Mode → List Raw → Run Nat

/-- The commands of the shell that are not special. -/
def ordinaryCommands : List String :=
  ["[", "alias", "bg", "cd", "chdir", "command", "echo", "false", "fg", "getopts", "hash", "jobs",
    "kill", "printf", "pwd", "read", "test", "true", "type", "ulimit", "umask", "unalias", "wait"]

namespace Run

/-- The name of the command of the shell that runs. -/
def commandName : Run Raw := do return (← get).command.getD []

/-- Ends a command of the shell with its output. -/
def finish (output : Raw) (code : Nat) : Run Nat := do
  match ← write 1 output with
  | .ok () => return code
  | .error _ =>
    warn ((← commandName) ++ ": I/O error".toList)
    return code ||| 1

/-- Reads the letters of one argument; the second result says whether the value of the last one was the
next argument. -/
def readFlagLetters (known : List (Char × Bool)) (next : Option Raw) : Raw →
    Run (List (Char × Raw) × Bool)
  | [] => return ([], false)
  | c :: cs => do
    match known.lookup c, cs, next with
    | none, _, _ => raise ("Illegal option -".toList ++ [c])
    | some false, cs, _ =>
      let (flags, taken) ← readFlagLetters known next cs
      return ((c, []) :: flags, taken)
    | some true, [], some value => return ([(c, value)], true)
    | some true, [], none => raise ("No arg for -".toList ++ [c] ++ " option".toList)
    | some true, cs, _ => return ([(c, cs)], false)

/-- Reads options, each a letter, some of them with a value: the options, and the other arguments. -/
def readFlags (known : List (Char × Bool)) : (fuel : Nat) → List Raw →
    Run (List (Char × Raw) × List Raw)
  | 0, arguments => return ([], arguments)
  | fuel + 1, arguments => do
    match arguments with
    | ['-', '-'] :: rest => return ([], rest)
    | ('-' :: c :: cs) :: rest =>
      let (flags, taken) ← readFlagLetters known rest.head? (c :: cs)
      let (more, others) ← readFlags known fuel (if taken then rest.tail else rest)
      return (flags ++ more, others)
    | arguments => return ([], arguments)

/-- The options that are letters without values. -/
def flagsOf (known : String) (arguments : List Raw) : Run (List Char × List Raw) := do
  let (flags, others) ← readFlags (known.toList.map (·, false)) (arguments.length + 1) arguments
  return (flags.map (·.1), others)

/-- The largest number that a command takes. -/
def numberLimit : Nat := 2147483647

/-- The number that an argument has to be. -/
def number (text : Raw) : Run Nat := do
  match Raw.nat? text with
  | some n => if n ≤ numberLimit then return n else raise ("Illegal number: ".toList ++ text)
  | none => raise ("Illegal number: ".toList ++ text)

/-- Asks for a text that a variable may have as its name. -/
def checkName (name : Raw) : Run Unit :=
  if Word.isName name then pure () else raise (name ++ ": bad variable name".toList)

/-- Writes a text so that a shell reads it as one word: between apostrophes, and apostrophes between
quotation marks. -/
def apostrophized : (fuel : Nat) → Raw → Raw
  | 0, _ => []
  | fuel + 1, cs =>
    let plain := cs.takeWhile (· ≠ '\'')
    let rest := cs.dropWhile (· ≠ '\'')
    let marks := rest.takeWhile (· = '\'')
    let more := rest.dropWhile (· = '\'')
    Tool.quoted plain ++
      (if marks = [] then [] else '"' :: marks ++ ['"']) ++
      (if more = [] then [] else apostrophized fuel more)

/-- A text as one word of a script. -/
def asWord (cs : Raw) : Raw := apostrophized (cs.length + 1) cs

/-- The lines of a listing of variables in the order of their names. -/
def listing (head : Raw) (shown : Setting → Bool) : Run Raw := do
  let settings := ((← get).settings.filter shown).mergeSort fun a b =>
    decide (String.ofList a.name ≤ String.ofList b.name)
  return settings.flatMap fun v =>
    head ++ v.name ++ (match v.value with
      | some value => '=' :: asWord value
      | none => []) ++ ['\n']

end Run

end PlannerTrials.Host
