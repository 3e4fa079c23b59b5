import PlannerTrials.Files.Tree
import PlannerTrials.Host.Locale

/-!
# What tools work with

A tool takes its arguments, its input and the files and gives texts on two outputs, in the order in
which they are written, and an exit code.  Most tools take options by the same rules: an option is a
letter after a dash or a name after two dashes, it may stand anywhere before two bare dashes, letters
may be put together, and a name may be cut short as long as it stays the name of one option.
-/

namespace PlannerTrials.Host

open Files (FileTree Fault)

/-- A text that is written to one of the two outputs. -/
inductive Written where
  | output (text : Raw)
  | errors (text : Raw)

/-- What a tool did. -/
structure ToolResult where
  /-- What was written, in order. -/
  written : List Written := []
  code : Nat := 0
  /-- How much of the input was taken; all of it, if this is missing. -/
  taken : Option Nat := none
  /-- The files, if they were changed. -/
  files : Option FileTree := none

/-- What a tool has to work with. -/
structure ToolInput where
  files : FileTree
  environment : List (Raw × Raw)
  /-- The name under which the tool was launched. -/
  name : Raw
  arguments : List Raw
  /-- What is left of the input. -/
  input : Except Fault Raw
  /-- The size of the input if it is a file. -/
  inputSize : Option Nat
  /-- Where the output is written, if it is a file. -/
  outputFile : Option Files.Location := none

/-- A tool. -/
abbrev Tool := ToolInput → ToolResult

namespace ToolResult

/-- A result that is one text. -/
def ofOutput (text : Raw) : ToolResult := { written := [.output text] }

/-- A result that is one complaint. -/
def ofErrors (text : Raw) (code : Nat) : ToolResult := { written := [.errors text], code }

/-- A result with more output. -/
def print (r : ToolResult) (text : Raw) : ToolResult :=
  if text = [] then r else { r with written := r.written ++ [.output text] }

/-- A result with another complaint and its exit code. -/
def complain (r : ToolResult) (text : Raw) (code : Nat) : ToolResult :=
  { r with written := r.written ++ [.errors text], code }

end ToolResult

namespace Tool

/-- Words with single spaces between them. -/
def spaced (words : List Raw) : Raw := [' '].intercalate words

/-- The text of a fault as tools tell it, without its number. -/
def faultText (fault : Fault) : Raw :=
  match fault with
  | .system n => ((Files.faultTexts.lookup n).getD ("Unknown error " ++ Number.numeral n)).toList
  | .other text => Raw.ofString text

/-- A line that a tool complains with. -/
def said (i : ToolInput) (text : Raw) : Raw := i.name ++ ": ".toList ++ text ++ ['\n']

/-- A text between apostrophes. -/
def quoted (text : Raw) : Raw := '\'' :: text ++ ['\'']

/-- Whether a tool reads bytes as UTF-8. -/
def isUnicode (i : ToolInput) : Bool := Locale.isUnicode i.environment

/-- A text as a tool quotes it in a sentence. -/
def quotedFor (i : ToolInput) (text : Raw) : Raw := Locale.quoted (isUnicode i) text

/-- The name of a file between marks. -/
def markedName (i : ToolInput) (file : Raw) : Raw := Locale.asWord (isUnicode i) true [] file

/-- The name of a file at the start of a sentence, between marks if it needs them. -/
def plainName (i : ToolInput) (file : Raw) : Raw := Locale.asWord (isUnicode i) false [':'] file

/-- The advice to ask for help. -/
def advice (i : ToolInput) : Raw :=
  "Try '".toList ++ i.name ++ " --help' for more information.\n".toList

/-- A complaint with the advice to ask for help. -/
def misuse (i : ToolInput) (text : Raw) (code : Nat) : ToolResult :=
  .ofErrors (said i text ++ advice i) code

/-- The path that a text is. -/
def path (file : Raw) : String := Raw.toString file

/-- Whether a file is the input: a dash and some paths stand for it. -/
def isInput (file : Raw) : Bool :=
  ["-", "/dev/stdin", "/dev/fd/0", "/proc/self/fd/0"].contains (String.ofList file)

/-- The text of a file or of the input. -/
def fileText (i : ToolInput) (file : Raw) : Except Fault Raw :=
  if isInput file then i.input else (i.files.read (path file)).map Raw.ofBytes

/-- Whether a file is the one to which the output is written. -/
def isOutput (i : ToolInput) (file : Raw) : Bool :=
  match i.outputFile, i.files.look (path file) with
  | some l, .ok (m, .file _) => l = m
  | _, _ => false

/-- The files named, or the input if there are none. -/
def filesOf (operands : List Raw) : List Raw := if operands = [] then [['-']] else operands

/-! ## Options -/

/-- Whether an option takes a value. -/
inductive Takes where
  | nothing
  | value
  /-- A value after an equals sign, and without one a usual value. -/
  | valueOr (usual : String)
  deriving DecidableEq, Repr

/-- The options of a tool: letters, and names with the keys that they stand for. -/
structure OptionTable where
  letters : List (Char × Takes)
  names : List (String × String × Takes)

/-- A key for an option that is a letter. -/
def letterKey (c : Char) : String := String.ofList [c]

/-- What is wrong with the options. -/
abbrev OptionFault := Raw

/-- The options, each with its value, and the other arguments. -/
structure Operands where
  options : List (String × Raw) := []
  others : List Raw := []

/-- The fault of a letter that is no option. -/
def unknownLetter (c : Char) : OptionFault := "invalid option -- ".toList ++ quoted [c]

/-- Reads the letters after a dash; the second result says whether the value of the last one was
the next argument. -/
def readLetters (table : OptionTable) (next : Option Raw) : Raw →
    Except OptionFault (List (String × Raw) × Bool)
  | [] => .ok ([], false)
  | c :: cs =>
    match table.letters.lookup c with
    | none => .error (unknownLetter c)
    | some .value =>
      if cs ≠ [] then .ok ([(letterKey c, cs)], false)
      else
        match next with
        | some value => .ok ([(letterKey c, value)], true)
        | none => .error ("option requires an argument -- ".toList ++ quoted [c])
    | some _ => do
      let (more, taken) ← readLetters table next cs
      return ((letterKey c, []) :: more, taken)

/-- Reads a name after two dashes; the second result is as for letters. -/
def readOptionName (table : OptionTable) (next : Option Raw) (text : Raw) :
    Except OptionFault ((String × Raw) × Bool) := do
  let name := text.takeWhile (· ≠ '=')
  let value? := match text.dropWhile (· ≠ '=') with
    | [] => none
    | _ :: value => some value
  let full := "--".toList ++ text
  let named := table.names.filter fun n => n.1.toList = name
  let candidates :=
    if named.isEmpty then table.names.filter fun n => name.isPrefixOf n.1.toList else named
  let keys := (candidates.map fun n => n.2.1).eraseDups
  match candidates, keys with
  | [], _ => throw ("unrecognized option ".toList ++ quoted ("--".toList ++ text))
  | (known, key, takes) :: _, [_] =>
    let shown := quoted ("--".toList ++ known.toList)
    match takes, value? with
    | .nothing, some _ => throw ("option ".toList ++ shown ++ " doesn't allow an argument".toList)
    | .value, none =>
      match next with
      | some value => return ((key, value), true)
      | none => throw ("option ".toList ++ shown ++ " requires an argument".toList)
    | .valueOr usual, none => return ((key, usual.toList), false)
    | _, value => return ((key, value.getD []), false)
  | first :: others, _ =>
    let different := others.filter fun n => n.2 ≠ first.2
    throw ("option ".toList ++ quoted full ++ " is ambiguous; possibilities:".toList ++
      (first :: different).flatMap fun n => ' ' :: quoted ("--".toList ++ n.1.toList))

/-- Whether an option ends the reading of options, since a tool then only tells about itself. -/
def tellsAbout (key : String) : Bool := key = "help" || key = "version"

/-- Reads options and other arguments. -/
def readOptions (table : OptionTable) : (fuel : Nat) → List Raw → Except OptionFault Operands
  | 0, args => .ok { others := args }
  | _, [] => .ok {}
  | fuel + 1, arg :: rest =>
    match arg with
    | ['-', '-'] => .ok { others := rest }
    | '-' :: '-' :: name => do
      let (option, taken) ← readOptionName table rest.head? name
      if tellsAbout option.1 then return { options := [option] }
      let more ← readOptions table fuel (if taken then rest.tail else rest)
      return { more with options := option :: more.options }
    | '-' :: c :: cs => do
      let (options, taken) ← readLetters table rest.head? (c :: cs)
      let more ← readOptions table fuel (if taken then rest.tail else rest)
      return { more with options := options ++ more.options }
    | arg => do
      let more ← readOptions table fuel rest
      return { more with others := arg :: more.others }

namespace Operands

/-- Whether an option is given. -/
def has (o : Operands) (key : String) : Bool := o.options.any (·.1 = key)

/-- The last value of an option. -/
def value? (o : Operands) (key : String) : Option Raw :=
  (o.options.filter (·.1 = key)).getLast?.map (·.2)

end Operands

/-- What a tool tells about its version. -/
def versionOf (i : ToolInput) (tool : String) : ToolResult :=
  .ofOutput (Raw.ofString (i.files.about tool).version)

/-- What a tool tells about how it is called. -/
def helpOf (i : ToolInput) (tool : String) : ToolResult :=
  .ofOutput (i.name.intercalate ((i.files.about tool).help.map Raw.ofString))

/-- What a tool tells about itself if the options ask for that, and otherwise does. -/
def aboutOr (tool : String) (i : ToolInput) (o : Operands) (other : ToolResult) : ToolResult :=
  if o.has "help" then helpOf i tool else if o.has "version" then versionOf i tool else other

/-- The options of a tool, or its complaint about them. -/
def withOptions (table : OptionTable) (code : Nat) (tool : ToolInput → Operands → ToolResult) : Tool :=
  fun i =>
    match readOptions table (i.arguments.length + 1) i.arguments with
    | .ok operands => tool i operands
    | .error fault => misuse i fault code

/-- A tool that does nothing but end with an exit code; a single argument may ask what it is. -/
def ending (tool : String) (code : Nat) : Tool := fun i =>
  let about : ToolResult := match i.arguments.map String.ofList with
    | ["--help"] => helpOf i tool
    | ["--version"] => versionOf i tool
    | _ => {}
  { about with code, taken := some 0 }

/-! ## Sizes -/

/-- What is wrong with a size. -/
inductive SizeFault where
  | unreadable
  | tooLarge
  deriving DecidableEq, Repr

/-- Sizes are below this. -/
def sizeCount : Nat := 18446744073709551616

/-- The letters for powers of 1024, or of 1000. -/
def sizeLetters : List (Char × Nat) :=
  [('k', 1), ('K', 1), ('m', 2), ('M', 2), ('G', 3), ('T', 4), ('P', 5), ('E', 6), ('Z', 7), ('Y', 8)]

/-- The factor that a text after the digits of a size stands for. -/
def sizeFactor? : Raw → Option Nat
  | [] => some 1
  | ['b'] => some 512
  | c :: rest =>
    match sizeLetters.lookup c, String.ofList rest with
    | some power, "" | some power, "iB" => some (Nat.pow 1024 power)
    | some power, "B" | some power, "D" => some (Nat.pow 1000 power)
    | _, _ => none

/-- The size that a text means; a factor alone stands for itself. -/
def readSize (text : Raw) : Except SizeFault Nat :=
  let signed := (text.dropWhile fun c => c = ' ' || ('\t' ≤ c && c ≤ '\r'))
  let bare := match signed with
    | '+' :: rest => rest
    | rest => rest
  let digits := bare.takeWhile Number.isDigit
  let (number, rest) : Nat × Raw := if digits = [] then (1, text)
    else (Number.digitsValue 0 digits, bare.dropWhile Number.isDigit)
  match (if digits = [] ∧ rest = [] then none else sizeFactor? rest) with
  | some factor => if sizeCount ≤ number * factor then .error .tooLarge else .ok (number * factor)
  | none => .error .unreadable

/-- The size that a text means. -/
def size? (text : Raw) : Option Nat := (readSize text).toOption

end Tool

end PlannerTrials.Host
