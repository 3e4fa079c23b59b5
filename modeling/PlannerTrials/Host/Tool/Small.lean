import PlannerTrials.Host.Tool.Basic

/-!
# Small tools

Ranges of numbers, parts of paths, variables, and the tools that do nothing.
-/

namespace PlannerTrials.Host

namespace Tool

/-- The options of `seq`. -/
def seqOptions : OptionTable where
  letters := [('s', .value), ('w', .nothing), ('f', .value)]
  names := [("separator", "s", .value), ("equal-width", "w", .nothing), ("format", "f", .value)]

/-- Prints the integers of a range. -/
def seq : Tool := fun i =>
  let isNumber (a : Raw) : Bool := (Raw.int? a).isSome
  let firstNumber := i.arguments.takeWhile fun a => !isNumber a
  let numbers := i.arguments.drop firstNumber.length
  match readOptions seqOptions (firstNumber.length + 1) firstNumber with
  | .error fault => misuse i fault 1
  | .ok o =>
    let separator := (o.value? "s").getD ['\n']
    let range (low step high : Int) : ToolResult :=
      if step = 0 then
        misuse i "invalid Zero increment value: '0'".toList 1
      else
        let count := ((high - low) / step + 1).toNat
        let count := if (0 < step ∧ high < low) ∨ (step < 0 ∧ low < high) then 0 else count
        let texts := (List.range count).map fun (k : Nat) => Raw.ofInt (low + (k : Int) * step)
        let width := (texts.map List.length).foldl max 0
        let texts := if o.has "w" then
            texts.map fun t => match t with
              | '-' :: ds => '-' :: List.replicate (width - t.length) '0' ++ ds
              | ds => List.replicate (width - t.length) '0' ++ ds
          else texts
        if texts = [] then {} else .ofOutput (separator.intercalate texts ++ ['\n'])
    let operands := o.others ++ numbers
    match operands.find? fun a => !isNumber a with
    | some bad => misuse i ("invalid floating point argument: ".toList ++ quoted bad) 1
    | none =>
      match operands.map Raw.int? with
      | [some high] => range 1 1 high
      | [some low, some high] => range low 1 high
      | [some low, some step, some high] => range low step high
      | [] => misuse i "missing operand".toList 1
      | _ => misuse i ("extra operand ".toList ++ quoted (operands.getD 3 [])) 1

/-- The last name of a path. -/
def lastName (path : Raw) : Raw :=
  let bare := (path.reverse.dropWhile (· = '/')).reverse
  let name := (bare.reverse.takeWhile (· ≠ '/')).reverse
  if name = [] then path.take 1 else name

/-- A name without an ending, unless it is nothing else. -/
def withoutEnding (ending name : Raw) : Raw :=
  if ending ≠ [] ∧ ending ≠ name ∧ ending.isSuffixOf name then name.take (name.length - ending.length)
  else name

/-- Prints the last name of a path, without an ending if one is given. -/
def basename : Tool :=
  withOptions ⟨[('a', .nothing), ('s', .value), ('z', .nothing)],
    [("multiple", "a", .nothing), ("suffix", "s", .value), ("zero", "z", .nothing)]⟩ 1 fun i o =>
  let ending := if o.has "z" then ['\x00'] else ['\n']
  if o.others = [] then misuse i "missing operand".toList 1
  else if o.has "a" ∨ o.has "s" then
    .ofOutput (o.others.flatMap fun p =>
      withoutEnding ((o.value? "s").getD []) (lastName p) ++ ending)
  else
    match o.others with
    | [p] => .ofOutput (lastName p ++ ending)
    | [p, suffix] => .ofOutput (withoutEnding suffix (lastName p) ++ ending)
    | _ => misuse i ("extra operand ".toList ++ quoted (o.others.getD 2 [])) 1

/-- A path without its last name. -/
def folderName (path : Raw) : Raw :=
  let bare := (path.reverse.dropWhile (· = '/')).reverse
  let above := ((bare.reverse.dropWhile (· ≠ '/')).dropWhile (· = '/')).reverse
  if above ≠ [] then above else if path.head? = some '/' then ['/'] else ['.']

/-- Prints paths without their last names. -/
def dirname : Tool :=
  withOptions ⟨[('z', .nothing)], [("zero", "z", .nothing)]⟩ 1 fun i o =>
  if o.others = [] then misuse i "missing operand".toList 1
  else .ofOutput (o.others.flatMap fun p =>
    folderName p ++ if o.has "z" then ['\x00'] else ['\n'])

/-- Prints the values of variables, or all variables. -/
def printenv : Tool :=
  withOptions ⟨[('0', .nothing)], [("null", "0", .nothing)]⟩ 2 fun i o =>
  let ending := if o.has "0" then ['\x00'] else ['\n']
  if o.others = [] then
    .ofOutput (i.environment.flatMap fun (name, value) => name ++ '=' :: value ++ ending)
  else
    o.others.foldl
      (fun r name =>
        match i.environment.lookup name with
        | some value => r.print (value ++ ending)
        | none => { r with code := 1 })
      {}

/-- Whether a text is a length of time. -/
def isTime (text : Raw) : Bool :=
  let number := match text.getLast? with
    | some c => if "smhd".toList.contains c then text.dropLast else text
    | none => text
  let digits := number.filter Number.isDigit
  digits ≠ [] && number.length ≤ digits.length + 1 &&
    number.all fun c => Number.isDigit c || c = '.'

/-- Waits. -/
def sleep : Tool := withOptions ⟨[], []⟩ 1 fun i o =>
  if o.others = [] then misuse i "missing operand".toList 1
  else
    match o.others.filter fun t => !isTime t with
    | [] => { taken := some 0 }
    | bad =>
      .ofErrors (bad.flatMap (fun t => said i ("invalid time interval ".toList ++ quoted t)) ++
        advice i) 1

/-- Prints a text again and again, here as often as any reader may ask for. -/
def yes : Tool := fun i =>
  let line := (if i.arguments = [] then ['y'] else spaced i.arguments) ++ ['\n']
  .ofOutput (List.replicate (65536 / line.length + 1) line).flatten

/-- Prints the working folder. -/
def pwd : Tool := fun i =>
  .ofOutput ('/' :: ['/'].intercalate (i.files.workingFolder.map Raw.ofBytes) ++ ['\n'])

end Tool

end PlannerTrials.Host
