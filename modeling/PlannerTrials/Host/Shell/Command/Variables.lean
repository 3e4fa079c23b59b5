import PlannerTrials.Host.Shell.Command.Basic

/-!
# Commands for variables and arguments

Variables are marked, made local, read and taken away; arguments are set, shifted and read as options.
-/

namespace PlannerTrials.Host

namespace Run

/-! ## Marks -/

/-- Marks a variable, which an argument may also give a value. -/
def mark (change : Setting → Setting) (argument : Raw) : Run Unit := do
  let name := argument.takeWhile (· ≠ '=')
  match argument.dropWhile (· ≠ '=') with
  | _ :: value =>
    checkName name
    assign name value false
  | [] =>
    if ((← get).setting? name).isNone then checkName name
  modify fun sh => sh.put (change ((sh.setting? name).getD { name, value := none }))

/-- Marks variables, or lists the ones that are marked. -/
def markAll (isMarked : Setting → Bool) (change : Setting → Setting) : Action := fun _ _ arguments => do
  let (flags, names) ← flagsOf "p" arguments
  if flags.isEmpty ∧ names ≠ [] then
    names.forM (mark change)
    return 0
  else finish (← listing ((← commandName) ++ [' ']) isMarked) 0

/-- Lets programs see variables. -/
def exportVariables : Action := markAll (·.exported) fun v => { v with exported := true }

/-- Forbids to change variables. -/
def fixVariables : Action := markAll (·.fixed) fun v => { v with fixed := true }

/-- Makes variables local to the function that runs. -/
def localVariables : Action := fun _ _ arguments => do
  if (← get).frames.isEmpty then raise "not in a function".toList
  else
    arguments.forM fun argument => do
      let name := argument.takeWhile (· ≠ '=')
      match argument.dropWhile (· ≠ '=') with
      | _ :: value =>
        makeLocal name
        assign name value false
      | [] =>
        if ((← get).setting? name).isNone then checkName name
        makeLocal name
    return 0

/-- Takes variables or functions away. -/
def unsetNames : Action := fun _ _ arguments => do
  let (flags, names) ← flagsOf "vf" arguments
  if flags.getLast? = some 'f' then
    modify fun sh => { sh with functions := sh.functions.filter fun f => !names.contains f.1 }
  else
    names.forM fun name => do
      checkName name
      unset name
  return 0

/-! ## Arguments -/

/-- Gives the shell other arguments. -/
def setArguments (arguments : List Raw) : Run Unit :=
  modify fun sh => { sh with arguments, optionArgument := 1, optionPlace := none }

/-- The options as they are listed. -/
def optionListing (asScript : Bool) : Run Raw := do
  let sh ← get
  let title : Raw := if asScript then [] else "Current option settings\n".toList
  return title ++ optionNames.flatMap fun (name, c) =>
    if asScript then
      "set ".toList ++ [if sh.has c then '-' else '+', 'o', ' '] ++ name.toList ++ ['\n']
    else
      name.toList ++ List.replicate (16 - name.length) ' ' ++
        (if sh.has c then "on\n" else "off\n").toList

/-- Reads the options of `set`: what is listed, and the arguments that are set, if any are. -/
def readSettings : (fuel : Nat) → List Raw → Run (Raw × Option (List Raw))
  | 0, _ => return ([], none)
  | _, [] => return ([], none)
  | fuel + 1, argument :: rest => do
    let others : Option (List Raw) := if rest.isEmpty then none else some rest
    match argument with
    | ['-'] =>
      setOption false 'x'
      setOption false 'v'
      return ([], others)
    | ['-', '-'] => return ([], some rest)
    | sign :: cs =>
      if sign = '-' ∨ sign = '+' then
        let (listed, rest) ← letters (sign == '-') cs rest
        let (more, others) ← readSettings fuel rest
        return (listed ++ more, others)
      else return ([], some (argument :: rest))
    | [] => return ([], some (argument :: rest))
where
  /-- Reads the letters of one argument. -/
  letters (setting : Bool) : Raw → List Raw → Run (Raw × List Raw)
    | [], rest => return ([], rest)
    | c :: cs, rest => do
      if c = 'o' then
        match rest with
        | [] =>
          let listed ← optionListing !setting
          let (more, rest) ← letters setting cs []
          return (listed ++ more, rest)
        | name :: rest =>
          setNamedOption setting name
          letters setting cs rest
      else if shellOptions.contains c then
        setOption setting c
        letters setting cs rest
      else raise ("Illegal option -".toList ++ [c])

/-- Sets options and arguments, or lists the variables. -/
def setAll : Action := fun _ _ arguments => do
  if arguments.isEmpty then finish (← listing [] (·.value.isSome)) 0
  else
    let (listed, others) ← readSettings (arguments.length + 1) arguments
    match others with
    | some others => setArguments others
    | none => pure ()
    finish listed 0

/-- Takes the first arguments away. -/
def shift : Action := fun _ _ arguments => do
  let count ← match arguments with
    | [] => pure 1
    | text :: _ => number text
  let own := (← get).arguments
  if own.length < count then raise "can't shift that many".toList
  else
    setArguments (own.drop count)
    return 0

/-- What is found where options of a script are read on. -/
inductive Found where
  | atEnd
  | option (letter : Char) (value : Option Raw)
  | unknown (letter : Char)
  | withoutValue (letter : Char)

/-- Reads the next option among words, from a place on: what is found, the word at which it goes on,
and the letter in the one before. -/
def nextOption (known : Raw) (words : List Raw) (word : Nat) (place : Option Nat) :
    Found × Nat × Option Nat :=
  let started : Option (Raw × Nat) := match place with
    | some n =>
      match ((words[word - 2]?).getD []).drop n with
      | [] => none
      | cs => if 1 < word then some (cs, word) else none
    | none => none
  let fresh : Option (Raw × Nat) := match words[word - 1]? with
    | some ('-' :: c :: cs) => some (c :: cs, word + 1)
    | _ => none
  match started.or fresh with
  | none => (.atEnd, word, none)
  | some (cs, word) =>
    if started.isNone ∧ cs = ['-'] then (.atEnd, word, none)
    else
      let c := cs.headD ' '
      let rest := cs.drop 1
      let current := (words[word - 2]?).getD []
      let here := some (current.length - rest.length)
      match known.dropWhile (· ≠ c) with
      | [] => (.unknown c, word, here)
      | _ :: ':' :: _ =>
        if rest ≠ [] then (.option c (some rest), word, none)
        else
          match words[word - 1]? with
          | some value => (.option c (some value), word + 1, none)
          | none => (.withoutValue c, word, none)
      | _ => (.option c none, word, here)

/-- Reads options of a script one after the other. -/
def getOptions : Action := fun _ _ arguments => do
  let (_, arguments) ← flagsOf "" arguments
  match arguments with
  | known :: name :: own =>
    let sh ← get
    let words := if own.isEmpty then sh.arguments else own
    let (word, place) := if words.length + 1 < sh.optionArgument then (1, none)
      else (sh.optionArgument, sh.optionPlace)
    let letters := if known.head? = some ':' then known.drop 1 else known
    let quiet := known.head? = some ':'
    let (found, word, place) := nextOption letters words word place
    let told (text : String) (c : Char) : Run Char := do
      if quiet then
        assign "OPTARG".toList [c] false
        return if text = "Illegal option -" then '?' else ':'
      else
        tell (text.toList ++ [c] ++ (if text = "Illegal option -" then "\n" else " option\n").toList)
        modify fun sh => sh.remove "OPTARG".toList
        return '?'
    let letter ← match found with
      | .atEnd => pure '?'
      | .option c value => do
        assign "OPTARG".toList (value.getD []) false
        pure c
      | .unknown c => told "Illegal option -" c
      | .withoutValue c => told "No arg for -" c
    modify fun sh => { sh.put { name := "OPTIND".toList, value := some (Number.digits word) } with
      optionArgument := word, optionPlace := place }
    checkName name
    assign name [letter] false
    match found with
    | .atEnd => return 1
    | _ => return 0
  | _ => raise "Usage: getopts optstring var [arg...]".toList

/-! ## Reading -/

/-- How far a line has been split: the fields, the last one first, the field that has begun, backwards,
whether blanks have just ended a field, how many fields may still begin, and what is kept of the last
field if nothing follows. -/
structure Splitting where
  fields : List Raw := []
  current : Raw := []
  blank : Bool := false
  left : Nat
  kept : Option Raw := none

/-- Splits on at a character, which may be quoted. -/
def Splitting.step (separators : Raw) (s : Splitting) : Char × Bool → Splitting
  | (c, true) => { s with current := c :: s.current, blank := false }
  | (c, false) =>
    let separates := separators.contains c
    let white := separates && (c = ' ' || c = '\t' || c = '\n')
    if s.left = 0 then
      let kept := if white then some (s.kept.getD s.current)
        else if separates && s.blank then s.kept
        else none
      { s with current := c :: s.current, kept, blank := s.blank && white }
    else if s.blank ∧ white then s
    else if s.blank ∧ separates then { s with blank := false }
    else if separates then
      if white ∧ s.current = [] then { s with blank := false }
      else if s.left = 1 then
        { s with left := 0, kept := some s.current, current := c :: s.current, blank := white }
      else
        { s with
          fields := s.current.reverse :: s.fields, current := [], left := s.left - 1, blank := white }
    else { s with current := c :: s.current, blank := false }

/-- The fields of a line, so many at most. -/
def splitLine (separators : Raw) (count : Nat) (line : List (Char × Bool)) : List Raw :=
  let s := line.foldl (Splitting.step separators) { left := count }
  let last := (s.kept.getD s.current).reverse
  (if last = [] then s.fields else last :: s.fields).reverse

/-- Takes a line from a text: its characters with whether they are quoted, how much has been taken, and
whether the line has an end. -/
def takeLine (quotes : Bool) : Raw → List (Char × Bool) × Nat × Bool
  | [] => ([], 0, false)
  | '\n' :: _ => ([], 1, true)
  | c :: cs =>
    if c = '\x00' then
      let (line, taken, ended) := takeLine quotes cs
      (line, taken + 1, ended)
    else if quotes && c = '\\' then
      match cs with
      | [] => ([], 1, false)
      | d :: cs =>
        let (line, taken, ended) := takeLine quotes cs
        (if d = '\n' then line else (d, true) :: line, taken + 2, ended)
    else
      let (line, taken, ended) := takeLine quotes cs
      ((c, false) :: line, taken + 1, ended)

/-- Gives variables the fields of a line; the ones without a field become empty. -/
def assignFields : List Raw → List Raw → Run Unit
  | [], _ => pure ()
  | name :: names, fields => do
    checkName name
    assign name (fields.headD []) false
    assignFields names (fields.drop 1)

/-- Reads a line into variables. -/
def readVariables : Action := fun _ _ arguments => do
  let (flags, names) ← readFlags [('p', true), ('r', false)] (arguments.length + 1) arguments
  if names.isEmpty then raise "arg count".toList
  else
    let text ← match ← rest 0 with
      | .ok text => pure text
      | .error _ => pure []
    let (line, taken, ended) := takeLine (!flags.any (·.1 = 'r')) text
    take 0 (some taken)
    assignFields names (splitLine (← get).separators names.length line)
    return if ended then 0 else 1

end Run

end PlannerTrials.Host
