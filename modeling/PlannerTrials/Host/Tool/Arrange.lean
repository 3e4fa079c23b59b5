import PlannerTrials.Host.Regex.Basic
import PlannerTrials.Host.Tool.Copy

/-!
# Arranging lines and characters

Sorting lines, dropping repeated ones, cutting parts out of lines, and replacing characters.
-/

namespace PlannerTrials.Host

namespace Tool

/-- The text of all files one after the other, with the complaints about those that cannot be read. -/
def gather (i : ToolInput) (complaint : Raw → Files.Fault → Raw) (code : Nat) (files : List Raw) :
    Raw × ToolResult :=
  files.foldl
    (fun (text, r) file =>
      match fileText i file with
      | .ok more =>
        let more := if more ≠ [] ∧ more.getLast? ≠ some '\n' then more ++ ['\n'] else more
        (text ++ more, r)
      | .error fault => (text, r.complain (said i (complaint file fault)) code))
    ([], {})

/-! ## Sorting -/

/-- How keys are compared. -/
structure Order where
  numeric : Bool := false
  reversed : Bool := false
  folded : Bool := false
  blanks : Bool := false

/-- The order that letters ask for. -/
def Order.ofLetters (letters : Raw) (start : Order) : Order where
  numeric := start.numeric || letters.contains 'n' || letters.contains 'g'
  reversed := start.reversed || letters.contains 'r'
  folded := start.folded || letters.contains 'f'
  blanks := start.blanks || letters.contains 'b'

/-- A part of a line that is compared: from a character of a field to one of another field. -/
structure Key where
  startField : Nat
  startChar : Nat
  endField : Option Nat
  endChar : Nat
  order : Option Order

/-- Reads one end of a key: field, character and letters. -/
def readKeyEnd (text : Raw) : Nat × Nat × Raw :=
  let field := Number.digitsValue 0 (text.takeWhile Number.isDigit)
  match text.dropWhile Number.isDigit with
  | '.' :: rest =>
    (field, Number.digitsValue 0 (rest.takeWhile Number.isDigit), rest.dropWhile Number.isDigit)
  | rest => (field, 0, rest)

/-- Reads a key. -/
def readKey (text : Raw) : Key :=
  let (startField, startChar, letters) := readKeyEnd (text.takeWhile (· ≠ ','))
  let (endField, endChar, more) : Option Nat × Nat × Raw :=
    match text.dropWhile (· ≠ ',') with
    | [] => (none, 0, [])
    | _ :: rest =>
      let (field, char, letters) := readKeyEnd rest
      (some field, char, letters)
  let letters := letters ++ more
  ⟨startField, max 1 startChar, endField, endChar,
    if letters = [] then none else some (Order.ofLetters letters {})⟩

/-- The fields of a line; without a separator, blanks belong to the field that follows them. -/
def fieldsOf (separator : Option Char) (line : Raw) : List Raw :=
  match separator with
  | some c => line.splitOn c
  | none => go line.length line
where
  /-- The fields of a line that is no longer than the number. -/
  go : Nat → Raw → List Raw
    | 0, _ => []
    | _, [] => []
    | n + 1, cs =>
      let isBlank (c : Char) : Bool := c = ' ' || c = '\t'
      let blanks := cs.takeWhile isBlank
      let word := (cs.dropWhile isBlank).takeWhile fun c => !isBlank c
      (blanks ++ word) :: go n ((cs.drop blanks.length).drop word.length)

/-- The part of a line that a key means. -/
def Key.of (key : Key) (separator : Option Char) (line : Raw) : Raw :=
  let glue : Raw := match separator with
    | some c => [c]
    | none => []
  let fields := fieldsOf separator line
  let first := key.startField - 1
  let wanted := match key.endField with
    | none => fields.drop first
    | some last =>
      let chosen := (fields.take last).drop first
      if key.endChar = 0 then chosen
      else
        match chosen.getLast? with
        | some f =>
          if fields.length < last then chosen else chosen.dropLast ++ [f.take key.endChar]
        | none => chosen
  (glue.intercalate wanted).drop (key.startChar - 1)

/-- The number at the start of a text, as a numerator and the power of ten below it. -/
def leadingNumber (text : Raw) : Int × Nat :=
  let body := text.dropWhile isGap
  let (negative, body) : Bool × Raw := match body with
    | '-' :: rest => (true, rest)
    | rest => (false, rest)
  let whole := body.takeWhile Number.isDigit
  let fraction := match body.dropWhile Number.isDigit with
    | '.' :: rest => rest.takeWhile Number.isDigit
    | _ => []
  let n : Int := (Number.digitsValue 0 (whole ++ fraction) : Nat)
  (if negative then -n else n, fraction.length)

/-- Compares two texts byte by byte. -/
def compareTexts : Raw → Raw → Ordering
  | [], [] => .eq
  | [], _ => .lt
  | _, [] => .gt
  | a :: as, b :: bs => if a = b then compareTexts as bs else if a < b then .lt else .gt

/-- Compares two keys. -/
def Order.compare (order : Order) (a b : Raw) : Ordering :=
  let result :=
    if order.numeric then
      let (m, j) := leadingNumber a
      let (n, k) := leadingNumber b
      let left := m * Nat.pow 10 k
      let right := n * Nat.pow 10 j
      if left < right then .lt else if right < left then .gt else .eq
    else
      let shape (cs : Raw) : Raw :=
        let cs := if order.blanks then cs.dropWhile isGap else cs
        if order.folded then cs.map Char.toUpper else cs
      compareTexts (shape a) (shape b)
  if order.reversed then result.swap else result

/-- The options of `sort`. -/
def sortOptions : OptionTable where
  letters := ("bcdfghimMnrRsuVz".toList.map fun c => (c, Takes.nothing)) ++
    [('k', .value), ('o', .value), ('t', .value)]
  names := [("reverse", "r", .nothing), ("numeric-sort", "n", .nothing), ("unique", "u", .nothing),
    ("key", "k", .value), ("field-separator", "t", .value), ("stable", "s", .nothing),
    ("ignore-case", "f", .nothing), ("ignore-leading-blanks", "b", .nothing)]

/-- Prints the lines of files, or of the input, in order. -/
def sort : Tool := withOptions sortOptions 2 fun i o =>
  let told (file : Raw) (fault : Files.Fault) : Raw :=
    let verb := if fault = Files.Fault.isFolder then "read failed: "
      else if isInput file then "stat failed: " else "cannot read: "
    verb.toList ++ file ++ ": ".toList ++ faultText fault
  let unreadable := (filesOf o.others).find? fun file => match fileText i file with
    | .ok _ => false
    | .error _ => true
  match unreadable with
  | some file =>
    (gather i told 2 [file]).2
  | none =>
    let (text, r) := gather i told 2 (filesOf o.others)
    let letters := o.options.flatMap fun ((key, _) : String × Raw) => key.toList
    let order := Order.ofLetters (letters.filter fun c => "ngrfb".toList.contains c) {}
    let separator := (o.value? "t").bind List.head?
    let keys := o.options.filterMap fun ((key, value) : String × Raw) =>
      if key = "k" then some (readKey value) else none
    let byKeys (a b : Raw) : Ordering :=
      if keys.isEmpty then order.compare a b
      else
        keys.foldl
          (fun result key =>
            match result with
            | .eq => (key.order.getD order).compare (key.of separator a) (key.of separator b)
            | result => result)
          .eq
    let before (a b : Raw) : Bool :=
      match byKeys a b with
      | .lt => true
      | .gt => false
      | .eq =>
        if o.has "u" || o.has "s" then true
        else (if order.reversed then compareTexts b a else compareTexts a b) ≠ .gt
    let sorted := ((Raw.lines text).map Raw.chomp).mergeSort before
    let sorted := if o.has "u" then
        (sorted.foldl
          (fun kept line =>
            match kept with
            | last :: _ => if byKeys last line = .eq then kept else line :: kept
            | [] => [line])
          []).reverse
      else sorted
    r.print (sorted.flatMap fun line => line ++ ['\n'])

/-- Lines that are equal to their neighbours, put together with their number. -/
def runs (same : Raw → Raw → Bool) : List Raw → List (Raw × Nat)
  | [] => []
  | line :: rest =>
    match runs same rest with
    | (next, n) :: more => if same line next then (line, n + 1) :: more else (line, 1) :: (next, n) :: more
    | [] => [(line, 1)]

/-- Prints the lines of its input, equal neighbours once. -/
def uniq : Tool :=
  withOptions ⟨"cdiu".toList.map fun c => (c, .nothing),
    [("count", "c", .nothing), ("repeated", "d", .nothing), ("ignore-case", "i", .nothing),
      ("unique", "u", .nothing)]⟩ 1 fun i o =>
  let file := o.others.headD ['-']
  match fileText i file with
  | .error fault =>
    let unread := isInput file || fault == Files.Fault.isFolder
    let shown := if unread then "error reading ".toList ++ quoted file else file
    .ofErrors (said i (shown ++ ": ".toList ++ faultText fault)) 1
  | .ok text =>
    let fold (cs : Raw) : Raw := if o.has "i" then cs.map Char.toLower else cs
    let found := runs (fun a b => fold a == fold b) ((Raw.lines text).map Raw.chomp)
    let found := found.filter fun (_, n) => (!o.has "d" || 1 < n) && (!o.has "u" || n = 1)
    .ofOutput (found.flatMap fun (line, n) =>
      let digits := Number.digits n
      (if o.has "c" then List.replicate (7 - digits.length) ' ' ++ digits ++ [' '] else []) ++
        line ++ ['\n'])

/-! ## Parts of lines -/

/-- Reads ranges of numbers with commas between them; a range may be open at either end. -/
def readRanges? (text : Raw) : Option (List (Nat × Option Nat)) :=
  (text.splitOn ',').mapM fun part =>
    match part.splitOn '-' with
    | [n] => (Raw.nat? n).bind fun n => if n = 0 then none else some (n, some n)
    | [low, high] =>
      let low? := if low = [] then some 1 else Raw.nat? low
      let high? : Option (Option Nat) := if high = [] then some none else (Raw.nat? high).map some
      if low = [] ∧ high = [] then none
      else
        match low?, high? with
        | some low, some high =>
          if low = 0 ∨ (high.getD low) < low then none else some (low, high)
        | _, _ => none
    | _ => none

/-- Whether a number lies in one of some ranges. -/
def inRanges (ranges : List (Nat × Option Nat)) (n : Nat) : Bool :=
  ranges.any fun (low, high) => low ≤ n && n ≤ high.getD n

/-- The options of `cut`. -/
def cutOptions : OptionTable where
  letters := [('b', .value), ('c', .value), ('d', .value), ('f', .value), ('n', .nothing),
    ('s', .nothing), ('z', .nothing)]
  names := [("bytes", "b", .value), ("characters", "c", .value), ("delimiter", "d", .value),
    ("fields", "f", .value), ("complement", "complement", .nothing),
    ("only-delimited", "s", .nothing), ("output-delimiter", "output-delimiter", .value)]

/-- Prints parts of the lines of files, or of the input. -/
def cut : Tool := withOptions cutOptions 1 fun i o =>
  let byField := o.has "f"
  match (o.value? "f").or ((o.value? "c").or (o.value? "b")) with
  | none => misuse i "you must specify a list of bytes, characters, or fields".toList 1
  | some list =>
    match readRanges? list with
    | none =>
      misuse i ((if byField then "invalid field value ".toList
        else "invalid byte/character position ".toList) ++ quoted list) 1
    | some ranges =>
      let delimiter := ((o.value? "d").bind List.head?).getD '\t'
      let between := (o.value? "output-delimiter").getD [delimiter]
      let wanted (n : Nat) : Bool := inRanges ranges n != o.has "complement"
      let ofLine (line : Raw) : Raw :=
        if byField then
          if line.contains delimiter then
            between.intercalate (((line.splitOn delimiter).zipIdx 1).filterMap fun (field, n) =>
              if wanted n then some field else none) ++ ['\n']
          else if o.has "s" then [] else line ++ ['\n']
        else ((line.zipIdx 1).filterMap fun (c, n) => if wanted n then some c else none) ++ ['\n']
      let told (file : Raw) (fault : Files.Fault) : Raw := file ++ ": ".toList ++ faultText fault
      let files := filesOf o.others
      let (text, r) := gather i told 1 files
      let r := match i.input with
        | .error (.system 9) =>
          if files.contains ['-'] then r.complain (said i (told ['-'] (.system 9))) 1 else r
        | _ => r
      r.print ((Raw.lines text).flatMap fun line => ofLine (Raw.chomp line))

/-! ## Replacing characters -/

/-- The characters that a range or a class stands for. -/
def charactersIn (ranges : List (Char × Char)) : Raw :=
  ranges.flatMap fun (low, high) =>
    (List.range (high.toNat + 1 - low.toNat)).map fun n => Char.ofNat (low.toNat + n)

/-- Reads the characters of a set: escapes, ranges and classes. -/
def readCharacters : (fuel : Nat) → Raw → Raw
  | 0, _ => []
  | _, [] => []
  | fuel + 1, '[' :: ':' :: rest =>
    let name := rest.takeWhile (· ≠ ':')
    match rest.dropWhile (· ≠ ':'), CharClass.named? name with
    | ':' :: ']' :: rest, some cls => charactersIn cls.ranges ++ readCharacters fuel rest
    | _, _ => '[' :: readCharacters fuel (':' :: rest)
  | fuel + 1, c :: cs =>
    let escaped (c : Char) (cs : Raw) : Char × Raw :=
      if c ≠ '\\' then (c, cs)
      else
        match cs with
        | [] => ('\\', [])
        | d :: rest =>
          let octal := (cs.take 3).takeWhile fun d => '0' ≤ d && d ≤ '7'
          if octal ≠ [] then
            (Char.ofNat ((octal.foldl (fun n d => n * 8 + (d.toNat - 48)) 0) % 256),
              cs.drop octal.length)
          else
            (match d with
              | 'n' => '\n'
              | 't' => '\t'
              | 'r' => '\r'
              | 'a' => '\x07'
              | 'b' => '\x08'
              | 'f' => '\x0c'
              | 'v' => '\x0b'
              | d => d, rest)
    let (low, rest) := escaped c cs
    match rest with
    | '-' :: d :: more =>
      let (high, rest) := escaped d more
      if high < low then low :: readCharacters fuel ('-' :: d :: more)
      else charactersIn [(low, high)] ++ readCharacters fuel rest
    | rest => low :: readCharacters fuel rest

/-- A text without the neighbours that are equal and in a set. -/
def squeeze (set : Raw) : Raw → Raw
  | a :: b :: rest => if a = b ∧ set.contains a then squeeze set (b :: rest) else a :: squeeze set (b :: rest)
  | cs => cs

/-- Replaces, deletes or squeezes characters of its input. -/
def tr : Tool :=
  withOptions ⟨"cCdst".toList.map fun c => (c, .nothing),
    [("complement", "c", .nothing), ("delete", "d", .nothing), ("squeeze-repeats", "s", .nothing),
      ("truncate-set1", "t", .nothing)]⟩ 1 fun i o =>
  let characters (text : Raw) : Raw := readCharacters (text.length + 1) text
  let deleting := o.has "d"
  let squeezing := o.has "s"
  let needed := if deleting != squeezing then 1 else 2
  match i.input with
  | .error fault => .ofErrors (said i ("read error: ".toList ++ faultText fault)) 1
  | .ok input =>
    match o.others with
    | [] => misuse i "missing operand".toList 1
    | first :: rest =>
      if rest = [] ∧ needed = 2 then
        .ofErrors (said i ("missing operand after ".toList ++ quoted first) ++
          (if deleting then
            "Two strings must be given when both deleting and squeezing repeats.\n".toList
            else "Two strings must be given when translating.\n".toList) ++ advice i) 1
      else
        let everything : Raw := (List.range 256).map Char.ofNat
        let sources := characters first
        let sources := if o.has "c" || o.has "C" then everything.filter fun c => !sources.contains c
          else sources
        let targets := characters (rest.headD [])
        let last := targets.getLast?.getD '\x00'
        let targets := targets ++ List.replicate (sources.length - targets.length) last
        if deleting then
          let kept := input.filter fun c => !sources.contains c
          .ofOutput (if squeezing then squeeze targets kept else kept)
        else if rest = [] then .ofOutput (squeeze sources input)
        else
          let pairs := (sources.zip targets).reverse
          let replaced := input.map fun c => (pairs.lookup c).getD c
          .ofOutput (if squeezing then squeeze targets replaced else replaced)

end Tool

end PlannerTrials.Host
