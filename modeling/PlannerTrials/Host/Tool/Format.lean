import PlannerTrials.Host.Tool.Format.Setting
import PlannerTrials.Host.Tool.Format.Value

/-!
# Printing in a format

`printf` prints its arguments in a format, again and again until no argument is left.  The shell has a
`printf` of its own, which knows fewer escapes and words its complaints differently; these
differences are the `Dialect`.  How the arguments are read and how they are set stands in the two
modules below; here are the escapes and the course through the format.
-/

namespace PlannerTrials.Host

namespace Format

/-! ## Escapes -/

/-- Up to so many octal digits at the start of a text, with the number that they stand for. -/
def takeOctal : Nat → Nat → Raw → Nat × Raw
  | 0, value, cs => (value, cs)
  | _, value, [] => (value, [])
  | most + 1, value, c :: cs =>
    if '0' ≤ c ∧ c ≤ '7' then takeOctal most (value * 8 + (c.toNat - 48)) cs
    else (value, c :: cs)

/-- The character that a letter after a backslash stands for everywhere. -/
def escapeLetter? : Char → Option Char
  | 'a' => some '\x07'
  | 'b' => some '\x08'
  | 'f' => some '\x0c'
  | 'n' => some '\n'
  | 'r' => some '\r'
  | 't' => some '\t'
  | 'v' => some '\x0b'
  | '\\' => some '\\'
  | _ => none

/-- Where escapes are read. -/
inductive EscapePlace where
  /-- In a format. -/
  | format
  /-- In an argument, where octal digits follow a zero and `\c` ends all output. -/
  | argument
  deriving DecidableEq

/-- Reads an escape after its backslash: the text, what follows, and whether all output ends here.
The flag says that more escapes are known than the ones of the shell. -/
def readEscape (rich : Bool) (place : EscapePlace) (cs : Raw) : Raw × Raw × Bool :=
  match cs with
  | [] => (['\\'], [], false)
  | c :: rest =>
    match escapeLetter? c with
    | some e => ([e], rest, false)
    | none =>
      if c = 'c' ∧ (rich ∨ place = .argument) then ([], [], true)
      else if '0' ≤ c ∧ c ≤ '7' then
        let digits := if place = .argument ∧ c = '0' then
            match rest with
            | d :: _ => if '0' ≤ d ∧ d ≤ '7' then rest else cs
            | [] => cs
          else cs
        let (value, rest) := takeOctal 3 0 digits
        ([Char.ofNat (value % 256)], rest, false)
      else if !rich then (['\\', c], rest, false)
      else
        match c with
        | 'e' => (['\x1b'], rest, false)
        | '"' => (['"'], rest, false)
        | 'x' =>
          let digits := (rest.take 2).takeWhile fun d => Calculation.digitValue d < 16
          if digits = [] then (['\\', 'x'], rest, false)
          else
            ([Char.ofNat (Calculation.readDigits 16 digits).1], rest.drop digits.length, false)
        | c => (['\\', c], rest, false)

/-- An argument with its escapes replaced, and whether all output ends in it. -/
def unescape (rich : Bool) : (fuel : Nat) → Raw → Raw × Bool
  | 0, _ => ([], false)
  | _, [] => ([], false)
  | fuel + 1, '\\' :: cs =>
    let (text, rest, ends) := readEscape rich .argument cs
    if ends then (text, true)
    else
      let (more, ends) := unescape rich fuel rest
      (text ++ more, ends)
  | fuel + 1, c :: cs =>
    let (more, ends) := unescape rich fuel cs
    (c :: more, ends)

/-! ## Formats -/

/-- What is written when a format is printed. -/
inductive Piece where
  | text (cs : Raw)
  | complaint (cs : Raw)

/-- What is known while a format is printed: the pieces, the last one first, and the arguments
left. -/
structure State where
  pieces : List Piece := []
  arguments : List Raw
  code : Nat := 0
  /-- All output has ended. -/
  ended : Bool := false
  /-- An argument has been asked for. -/
  asked : Bool := false

namespace State

/-- The state after printing a text. -/
def print (s : State) (cs : Raw) : State := { s with pieces := .text cs :: s.pieces }

/-- The state after a complaint. -/
def complain (s : State) (cs : Raw) (code : Nat) : State :=
  { s with pieces := .complaint cs :: s.pieces, code }

/-- The next argument, if there is one, and the state after it. -/
def next (s : State) : Option Raw × State :=
  (s.arguments.head?, { s with arguments := s.arguments.tail, asked := true })

end State

/-- Reads a width or a number of places, which may come from an argument. -/
def readAmount (d : Dialect) (s : State) (cs : Raw) : Int × State × Raw :=
  match cs with
  | '*' :: rest =>
    let (argument, s) := s.next
    let (n, complaint) := integer d false (argument.getD [])
    (n, match complaint with
      | some text => s.complain text 1
      | none => s, rest)
  | cs => ((Number.digitsValue 0 (cs.takeWhile Number.isDigit) : Nat), s, cs.dropWhile Number.isDigit)

/-- Prints an argument under a letter. -/
def convert (d : Dialect) (setting : Setting) (letter : Char) (s : State) : State :=
  let (argument?, s) := s.next
  let argument := argument?.getD []
  let shorten (cs : Raw) : Raw := match setting.places with
    | some n => cs.take n
    | none => cs
  let told (s : State) (complaint : Option Raw) (text : Raw) : State :=
    (match complaint with
      | some cs => s.complain cs 1
      | none => s).print text
  if letter = 's' then s.print (setting.fill false [] (shorten argument))
  else if letter = 'b' then
    let (text, ends) := unescape d.rich (argument.length + 1) argument
    { s.print (setting.fill false [] (shorten text)) with ended := ends }
  else if letter = 'c' then
    s.print (setting.fill false [] (if argument = [] then ['\x00'] else argument.take 1))
  else if "diouxX".toList.contains letter then
    let (n, complaint) := integer d (letter ≠ 'd' && letter ≠ 'i') argument
    told s complaint (setInteger setting letter n)
  else
    let (negative, x, complaint) := double d argument
    told s complaint (setDouble setting letter negative x)

/-- Prints a format once. -/
def once (d : Dialect) : (fuel : Nat) → Raw → State → State
  | 0, _, s => s
  | _, [], s => s
  | fuel + 1, '\\' :: cs, s =>
    let (text, rest, ends) := readEscape d.rich .format cs
    if ends then { s.print text with ended := true } else once d fuel rest (s.print text)
  | fuel + 1, '%' :: '%' :: cs, s => once d fuel cs (s.print ['%'])
  | fuel + 1, '%' :: cs, s =>
    let isFlag (c : Char) : Bool := c = '-' || c = '+' || c = ' ' || c = '#' || c = '0'
    let flags := cs.takeWhile isFlag
    let (width, s, rest) := readAmount d s (cs.dropWhile isFlag)
    let flags := if width < 0 then '-' :: flags else flags
    let (places, s, rest) : Option Nat × State × Raw :=
      match rest with
      | '.' :: rest =>
        let (n, s, rest) := readAmount d s rest
        (if n < 0 then none else some n.toNat, s, rest)
      | rest => (none, s, rest)
    let rest := if d.rich then rest.dropWhile fun c => "hlLjzt".toList.contains c else rest
    match rest with
    | [] =>
      { s.complain (d.missing.getD (d.invalid ('%' :: cs))) d.invalidCode with ended := true }
    | letter :: rest =>
      if "sbcdiouxXaAeEfFgG".toList.contains letter then
        let s := convert d ⟨flags, width.natAbs, places⟩ letter s
        if s.ended then s else once d fuel rest s
      else
        let shown := '%' :: cs.take (cs.length - rest.length)
        { s.complain (d.invalid shown) d.invalidCode with ended := true }
  | fuel + 1, c :: cs, s => once d fuel cs (s.print [c])

/-- Prints a format again and again until no argument is left. -/
def again (d : Dialect) (format : Raw) : (fuel : Nat) → State → State
  | 0, s => s
  | fuel + 1, s =>
    let after := once d (format.length + 1) format { s with asked := false }
    if after.ended ∨ after.arguments = [] then after
    else if !after.asked then
      match d.excess, after.arguments with
      | some text, a :: _ => { after.complain (text a) after.code with ended := true }
      | _, _ => after
    else again d format fuel after

/-- The pieces that a format and its arguments give, and the exit code. -/
def print (d : Dialect) (format : Raw) (arguments : List Raw) : List Piece × Nat :=
  let s := again d format (arguments.length + 1) { arguments }
  (s.pieces.reverse, s.code)

end Format

namespace Tool

/-- Prints its arguments in the format that comes first. -/
def printf : Tool := fun i =>
  let arguments := match i.arguments with
    | ['-', '-'] :: rest => rest
    | arguments => arguments
  match arguments with
  | [] => misuse i "missing operand".toList 1
  | format :: arguments =>
    let (pieces, code) := Format.print .program format arguments
    { written := pieces.map fun
        | .text cs => .output cs
        | .complaint cs => .errors (said i cs)
      code }

/-- Reads the options of `echo`: whether a line feed follows, whether escapes are replaced, and the
words. -/
def echoOptions (ends escapes : Bool) : List Raw → Bool × Bool × List Raw
  | ('-' :: c :: cs) :: rest =>
    if (c :: cs).all fun c => c = 'n' || c = 'e' || c = 'E' then
      let ends := ends && !(c :: cs).contains 'n'
      let escapes := ((c :: cs).filter (· ≠ 'n')).getLast?.map (· == 'e') |>.getD escapes
      echoOptions ends escapes rest
    else (ends, escapes, ('-' :: c :: cs) :: rest)
  | words => (ends, escapes, words)

/-- Prints its arguments. -/
def echo : Tool := fun i =>
  let (ends, escapes, words) := echoOptions true false i.arguments
  let text := spaced words
  let (text, stopped) := if escapes then Format.unescape true (text.length + 1) text else (text, false)
  .ofOutput (text ++ if ends && !stopped then ['\n'] else [])

end Tool

end PlannerTrials.Host
