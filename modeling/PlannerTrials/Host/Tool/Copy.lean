import PlannerTrials.Host.Tool.Basic

/-!
# Tools that copy

Whole files, their first or last parts, their lines backwards, and the counts of their lines, words and
bytes.
-/

namespace PlannerTrials.Host

namespace Tool

/-! ## Whole files -/

/-- How lines are shown when they are copied. -/
structure LineStyle where
  numbered : Bool := false
  /-- Only lines that are not blank have numbers. -/
  filledOnly : Bool := false
  squeezed : Bool := false
  ends : Bool := false
  tabs : Bool := false
  hidden : Bool := false

/-- Where the copying stands: the number of the last line, the blank lines before, and whether a line
has begun. -/
structure LineState where
  number : Nat := 0
  blanks : Nat := 0
  begun : Bool := false

/-- A character as it is shown when hidden ones are made visible. -/
def visible (style : LineStyle) (c : Char) : Raw :=
  if c = '\t' then if style.tabs then "^I".toList else [c]
  else if !style.hidden then [c]
  else
    let low (n : Nat) : Raw :=
      if n < 32 then ['^', Char.ofNat (n + 64)] else if n = 127 then ['^', '?'] else [Char.ofNat n]
    if c.toNat < 128 then low c.toNat else 'M' :: '-' :: low (c.toNat - 128)

/-- The text of a line number. -/
def numberText (n : Nat) : Raw :=
  let digits := Number.digits n
  List.replicate (6 - digits.length) ' ' ++ digits ++ ['\t']

/-- Shows a text in a style; the result is the shown text backwards. -/
def styled (style : LineStyle) : Raw → LineState → Raw → LineState × Raw
  | [], s, shown => (s, shown)
  | c :: cs, s, shown =>
    if c = '\n' then
      if s.begun then
        let ending := if style.ends then ['\n', '$'] else ['\n']
        styled style cs { s with begun := false, blanks := 0 } (ending ++ shown)
      else if style.squeezed ∧ 1 ≤ s.blanks then styled style cs s shown
      else
        let numbered := style.numbered && !style.filledOnly
        let number := if numbered then s.number + 1 else s.number
        let shown := if numbered then (numberText number).reverse ++ shown else shown
        let ending := if style.ends then ['\n', '$'] else ['\n']
        styled style cs { s with number, blanks := s.blanks + 1 } (ending ++ shown)
    else
      let starts := !s.begun && style.numbered
      let number := if starts then s.number + 1 else s.number
      let shown := if starts then (numberText number).reverse ++ shown else shown
      let text := if style.ends && c = '\x0d' && cs.head? = some '\n' then ['^', 'M'] else visible style c
      styled style cs ⟨number, 0, true⟩ (text.reverse ++ shown)

/-- The options of `cat`. -/
def catOptions : OptionTable where
  letters := "AbeEnstTuv".toList.map fun c => (c, .nothing)
  names := [("number-nonblank", "b", .nothing), ("number", "n", .nothing),
    ("squeeze-blank", "s", .nothing), ("show-nonprinting", "v", .nothing),
    ("show-ends", "E", .nothing), ("show-tabs", "T", .nothing), ("show-all", "A", .nothing),
    ("help", "help", .nothing), ("version", "version", .nothing)]

/-- Copies files one after the other; without files, the input. -/
def cat : Tool := withOptions catOptions 1 fun i o =>
  let all := o.has "A"
  let style : LineStyle := {
    numbered := o.has "n" || o.has "b"
    filledOnly := o.has "b"
    squeezed := o.has "s"
    ends := o.has "E" || o.has "e" || all
    tabs := o.has "T" || o.has "t" || all
    hidden := o.has "v" || o.has "e" || o.has "t" || all }
  let plain := !(style.numbered || style.squeezed || style.ends || style.tabs || style.hidden)
  let closing (r : ToolResult) : ToolResult :=
    match i.input with
    | .error (.system 9) =>
      if (filesOf o.others).contains ['-'] then
        r.complain (said i ("closing standard input: ".toList ++ faultText (.system 9))) 1
      else r
    | _ => r
  aboutOr "cat" i o <| closing ((filesOf o.others).foldl
    (fun (r, s) file =>
      match fileText i file with
      | .ok text =>
        if isOutput i file ∧ text ≠ [] then
          (r.complain (said i (plainName i file ++ ": input file is output file".toList)) 1, s)
        else if plain then (r.print text, s)
        else
          let (s, shown) := styled style text s []
          (r.print shown.reverse, s)
      | .error fault =>
        (r.complain (said i (plainName i file ++ ": ".toList ++ faultText fault)) 1, s))
    (({} : ToolResult), ({} : LineState))).1

/-! ## Parts of files -/

/-- How much of a text is to be kept. -/
inductive Extent where
  | lines (n : Nat)
  | bytes (n : Nat)
  /-- All but so many lines at the other end. -/
  | allButLines (n : Nat)
  | allButBytes (n : Nat)

/-- The lines of a text that end with a character. -/
def linesEnding (ending : Char) : Raw → List Raw
  | [] => []
  | c :: cs =>
    if c = ending then [ending] :: linesEnding ending cs
    else
      match linesEnding ending cs with
      | [] => [[c]]
      | l :: ls => (c :: l) :: ls

/-- The first part of a text. -/
def firstPart (ending : Char) (extent : Extent) (text : Raw) : Raw :=
  match extent with
  | .bytes n => text.take n
  | .lines n => ((linesEnding ending text).take n).flatten
  | .allButBytes n => text.take (text.length - n)
  | .allButLines n =>
    let lines := linesEnding ending text
    (lines.take (lines.length - n)).flatten

/-- The last part of a text. -/
def lastPart (ending : Char) (extent : Extent) (text : Raw) : Raw :=
  match extent with
  | .bytes n => text.drop (text.length - n)
  | .lines n =>
    let lines := linesEnding ending text
    (lines.drop (lines.length - n)).flatten
  | .allButBytes n => text.drop n
  | .allButLines n => ((linesEnding ending text).drop n).flatten

/-- What stands before the part of a file if there are several. -/
def fileHeading (first : Bool) (file : Raw) : Raw :=
  (if first then [] else ['\n']) ++ "==> ".toList ++
    (if file = ['-'] then "standard input".toList else file) ++ " <==\n".toList

/-- Prints a part of each file, or of the input; `unread` is told of an input that is closed. -/
def partsOf (i : ToolInput) (unread : Raw) (part : Raw → Raw) (headings : Option Bool)
    (operands : List Raw) : ToolResult :=
  let files := filesOf operands
  let headed := headings.getD (1 < files.length)
  let shown (file : Raw) : Raw := markedName i (if file = ['-'] then "standard input".toList else file)
  (files.foldl
    (fun (r, first) file =>
      let heading := if headed then fileHeading first file else []
      match fileText i file with
      | .ok text =>
        let r := (r.print heading).print (part text)
        (if file = ['-'] then { r with taken := some (part text).length } else r, first && !headed)
      | .error fault =>
        let line (cs : Raw) : Raw := said i (cs ++ ": ".toList ++ faultText fault)
        match fault, isInput file with
        | .system 21, _ =>
          ((r.print heading).complain (line ("error reading ".toList ++ shown file)) 1, first && !headed)
        | .system 9, true =>
          let told := (unread ++ [' ']) ++ shown file
          ((r.print heading).complain (line told ++ line ['-']) 1, first && !headed)
        | _, _ =>
          (r.complain (line ("cannot open ".toList ++ shown file ++ " for reading".toList)) 1, first))
    (({} : ToolResult), true)).1

/-- The names of the options of `head` and `tail`. -/
def partNames : List (String × String × Takes) :=
  [("bytes", "c", .value), ("lines", "n", .value), ("quiet", "q", .nothing),
    ("silent", "q", .nothing), ("verbose", "v", .nothing), ("zero-terminated", "z", .nothing),
    ("-presume-input-pipe", "pipe", .nothing),
    ("help", "help", .nothing), ("version", "version", .nothing)]

/-- The complaint about a count. -/
def badCount (i : ToolInput) (lines : Bool) (text : Raw) (fault : SizeFault) : ToolResult :=
  let kind := if lines then "lines: " else "bytes: "
  .ofErrors (said i ("invalid number of ".toList ++ kind.toList ++ quotedFor i text ++
    match fault with
    | .tooLarge => ": ".toList ++ faultText (.system 75)
    | .unreadable => [])) 1

/-- Which part of files is to be printed, and how. -/
structure PartRequest where
  extent : Extent := .lines 10
  /-- Whether the names of files are printed; if nothing is said, they are if there are several. -/
  headings : Option Bool := none
  ending : Char := '\n'

/-- A request with the option for a heading that a letter is. -/
def PartRequest.after (request : PartRequest) (key : String) : PartRequest :=
  if key = "q" then { request with headings := some false }
  else if key = "v" then { request with headings := some true }
  else if key = "z" then { request with ending := '\x00' }
  else request

/-- The largest size of a file. -/
def fileSizeLimit : Nat := 9223372036854775807

/-- The extent that the value of an option of `head` means. -/
def firstExtent (i : ToolInput) (lines : Bool) (text : Raw) : Except ToolResult Extent :=
  let (all, digits) : Bool × Raw := match text with
    | '-' :: rest => (true, rest)
    | rest => (false, rest)
  match readSize digits with
  | .error fault => .error (badCount i lines digits fault)
  | .ok n => .ok (match lines, all with
    | true, false => .lines n
    | true, true => .allButLines n
    | false, false => .bytes n
    | false, true => .allButBytes n)

/-- Follows the options of `head` one after the other. -/
def firstRequest (i : ToolInput) (request : PartRequest) (options : List (String × Raw)) :
    Except ToolResult PartRequest :=
  options.foldlM
    (fun request (key, value) =>
      if key = "n" ∨ key = "c" then
        (firstExtent i (key = "n") value).map fun extent => { request with extent }
      else .ok (request.after key))
    request

/-- What the letters after the digits of the short way to ask for the first part mean: whether lines are
counted, and the letter for the factor. -/
def shortUnit (letters : Raw) : Bool × Raw :=
  letters.foldl
    (fun (lines, factor) c =>
      if c = 'c' then (false, [])
      else if c = 'b' ∨ c = 'k' ∨ c = 'm' then (false, [c])
      else if c = 'l' then (true, factor)
      else (lines, factor))
    (true, [])

/-- The digit that stands where an option should. -/
def digitOption? (fault : OptionFault) : Option Char :=
  "0123456789".toList.find? fun d => fault = unknownLetter d

/-- Prints the first part of files. -/
def head : Tool := fun i =>
  let go (request : PartRequest) (arguments : List Raw) : ToolResult :=
    let table : OptionTable := ⟨[('c', .value), ('n', .value), ('q', .nothing), ('v', .nothing),
      ('z', .nothing)], partNames⟩
    match readOptions table (arguments.length + 1) arguments with
    | .error fault =>
      match digitOption? fault with
      | some d => misuse i ("invalid trailing option -- ".toList ++ [d]) 1
      | none => misuse i fault 1
    | .ok o =>
      match firstRequest i request o.options with
      | .error r => r
      | .ok { extent, headings, ending } =>
        aboutOr "head" i o <|
          match extent with
          | .allButBytes n =>
            if fileSizeLimit < n then badCount i false (Number.digits n) .tooLarge
            else partsOf i "error reading".toList (firstPart ending extent) headings o.others
          | extent => partsOf i "error reading".toList (firstPart ending extent) headings o.others
  match i.arguments with
  | ('-' :: d :: cs) :: rest =>
    if Number.isDigit d then
      let digits := (d :: cs).takeWhile Number.isDigit
      let letters := (d :: cs).dropWhile Number.isDigit
      match letters.find? fun c => !"bcklmqvz".toList.contains c with
      | some c => misuse i ("invalid trailing option -- ".toList ++ [c]) 1
      | none =>
        let (lines, factor) := shortUnit letters
        match firstExtent i lines (digits ++ factor) with
        | .error r => r
        | .ok extent =>
          go (letters.foldl (fun request c => request.after (letterKey c)) { extent }) rest
    else go {} i.arguments
  | arguments => go {} arguments

/-- The count, the unit and the direction of the short way to ask for the last part of a file. -/
def shortExtent? : Raw → Option Extent
  | sign :: cs =>
    let digits := cs.takeWhile Number.isDigit
    let n := if digits = [] then 10 else Number.digitsValue 0 digits
    let unit? : Option (Bool × Nat) := match cs.dropWhile Number.isDigit with
      | [] | ['l'] => some (false, 1)
      | ['c'] => some (true, 1)
      | ['b'] => some (true, 512)
      | _ => none
    match unit? with
    | none => none
    | some (inBytes, factor) =>
      if sign = '+' then
        some (if inBytes then .allButBytes (n * factor - 1) else .allButLines (n - 1))
      else if sign = '-' ∧ digits ≠ [] then some (if inBytes then .bytes (n * factor) else .lines n)
      else none
  | [] => none

/-- The extent that the value of an option of `tail` means. -/
def lastExtent (i : ToolInput) (lines : Bool) (text : Raw) : Except ToolResult Extent :=
  let (fromStart, digits) : Bool × Raw := match text with
    | '+' :: rest => (true, rest)
    | '-' :: rest => (false, rest)
    | rest => (false, rest)
  match readSize digits with
  | .error fault => .error (badCount i lines digits fault)
  | .ok n => .ok (match lines, fromStart with
    | true, false => .lines n
    | true, true => .allButLines (n - 1)
    | false, false => .bytes n
    | false, true => .allButBytes (n - 1))

/-- Follows the options of `tail` one after the other. -/
def lastRequest (i : ToolInput) (request : PartRequest) (options : List (String × Raw)) :
    Except ToolResult PartRequest :=
  options.foldlM
    (fun request (key, value) =>
      if key = "n" ∨ key = "c" then
        (lastExtent i (key = "n") value).map fun extent => { request with extent }
      else .ok (request.after key))
    request

/-- Prints the last part of files. -/
def tail : Tool := fun i =>
  let go (start : Extent) (arguments : List Raw) : ToolResult :=
    let table : OptionTable := ⟨[('c', .value), ('n', .value), ('q', .nothing), ('v', .nothing),
      ('z', .nothing), ('f', .nothing)], partNames⟩
    match readOptions table (arguments.length + 1) arguments with
    | .error fault =>
      match digitOption? fault with
      | some d => .ofErrors (said i ("option used in invalid context -- ".toList ++ [d])) 1
      | none => misuse i fault 1
    | .ok o =>
      match lastRequest i { extent := start } o.options with
      | .error r => r
      | .ok { extent, headings, ending } =>
        let r := partsOf i "cannot fstat".toList (lastPart ending extent) headings o.others
        { r with taken := none }
  match i.arguments with
  | option :: rest =>
    let short := match rest with
      | [] => true
      | [file] => file = ['-'] || file.head? ≠ some '-'
      | ['-', '-'] :: more => more.length ≤ 1
      | _ => false
    match if short then shortExtent? option else none with
    | some e => go e rest
    | none => go (.lines 10) i.arguments
  | [] => go (.lines 10) []

/-- Copies files with their lines in reverse order. -/
def tac : Tool := withOptions ⟨[], []⟩ 1 fun i o =>
  (filesOf o.others).foldl
    (fun r file =>
      match fileText i file with
      | .ok text => r.print (Raw.lines text).reverse.flatten
      | .error fault =>
        let shown := if file = ['-'] then quoted "standard input".toList else file
        match fault, isInput file with
        | .system 21, _ => r.complain (said i (shown ++ ": read error: Invalid argument".toList)) 1
        | .system 9, true =>
          r.complain (said i (shown ++ ": read error: ".toList ++ faultText fault) ++
            said i ("-: ".toList ++ faultText fault)) 1
        | _, _ =>
          r.complain (said i ("failed to open ".toList ++ quoted file ++ " for reading: ".toList ++
            faultText fault)) 1)
    {}

/-- Copies files with the characters of each line in reverse order. -/
def rev : Tool := withOptions ⟨[], []⟩ 1 fun i o =>
  (filesOf o.others).foldl
    (fun r file =>
      match fileText i file with
      | .ok text =>
        r.print ((Raw.lines text).flatMap fun line =>
          (Raw.chomp line).reverse ++ (if line.getLast? = some '\n' then ['\n'] else []))
      | .error fault =>
        r.complain (said i ("cannot open ".toList ++ file ++ ": ".toList ++ faultText fault)) 1)
    {}

/-! ## Counting -/

/-- The counts of a text: lines, words, bytes, and the length of the longest line. -/
structure Counts where
  lines : Nat := 0
  words : Nat := 0
  bytes : Nat := 0
  longest : Nat := 0

/-- Whether a character stands between words. -/
def isGap (c : Char) : Bool := c = ' ' || ('\t' ≤ c && c ≤ '\r')

/-- The number of words in a text; the flag says that a word has begun. -/
def wordCount (begun : Bool) : Raw → Nat
  | [] => 0
  | c :: cs =>
    if isGap c then wordCount false cs
    else if !begun && ' ' < c && c < '\x7f' then wordCount true cs + 1
    else wordCount begun cs

/-- The counts of a text. -/
def Counts.ofText (text : Raw) : Counts where
  lines := text.count '\n'
  words := wordCount false text
  bytes := text.length
  longest := ((Raw.lines text).map fun line => (Raw.chomp line).length).foldl max 0

/-- Counts the lines, words and bytes of files, or of the input. -/
def wc : Tool :=
  withOptions ⟨"clmwL".toList.map fun c => (c, .nothing),
    [("bytes", "c", .nothing), ("chars", "m", .nothing), ("lines", "l", .nothing),
      ("words", "w", .nothing), ("max-line-length", "L", .nothing)]⟩ 1 fun i o =>
  let keys := (o.options.map (·.1)).eraseDups
  let keys := if keys = [] then ["l", "w", "c"] else keys
  let files := filesOf o.others
  let sizes : List (Except Files.Fault (Option Nat)) := files.map fun file =>
    if file = ['-'] then
      match i.input with
      | .error (.system 9) => .error (.system 9)
      | _ => .ok i.inputSize
    else (i.files.look (path file)).map fun
      | (_, .file content) => some content.length
      | _ => none
  let total := sizes.foldl (fun total size =>
    match size with
    | .ok (some n) => total + n
    | _ => total) 0
  let special := sizes.any fun
    | .ok none => true
    | _ => false
  let width :=
    if files.length = 1 ∧ keys.length = 1 then 1
    else
      match sizes with
      | .error _ :: _ => 1
      | _ => max (Number.digits total).length (if special then 7 else 1)
  let shown (c : Counts) (name : Raw) : Raw :=
    let columns := ["l", "w", "m", "c", "L"].filter keys.contains
    let texts := columns.map fun key =>
      let n := if key = "l" then c.lines else if key = "w" then c.words
        else if key = "L" then c.longest else c.bytes
      let digits := Number.digits n
      List.replicate (width - digits.length) ' ' ++ digits
    spaced texts ++ (if name = [] then [] else ' ' :: name) ++ ['\n']
  let (r, sum) := files.foldl
    (fun (r, (sum : Counts)) file =>
      match fileText i file with
      | .ok text =>
        let c := Counts.ofText text
        let name := if o.others = [] then [] else file
        (r.print (shown c name),
          ⟨sum.lines + c.lines, sum.words + c.words, sum.bytes + c.bytes, max sum.longest c.longest⟩)
      | .error fault =>
        let label := if file = ['-'] then quoted "standard input".toList else file
        let name := if o.others = [] then [] else file
        let closed := isInput file && fault == .system 9
        let r := r.complain (said i (label ++ ": ".toList ++ faultText fault)) 1
        let r := if fault = Files.Fault.isFolder ∨ closed then r.print (shown {} name) else r
        (if closed then r.complain (said i ("-: ".toList ++ faultText fault)) 1 else r, sum))
    (({} : ToolResult), ({} : Counts))
  if 1 < files.length then r.print (shown sum "total".toList) else r

end Tool

end PlannerTrials.Host
