import PlannerTrials.Host.Regex.Wildcard
import PlannerTrials.Host.Tool.Selection

/-!
# Searching files

`grep` prints the lines of files that match a pattern, or tells how many or which files have one.  Here
its options are read; which lines are selected is the matter of a `Search`.  Files and folders can be left
out by their names.
-/

namespace PlannerTrials.Host

namespace Tool

/-- How a pattern is written. -/
inductive PatternStyle where
  | basic
  | extended
  /-- The first of several choices counts. -/
  | ordered
  | literal
  deriving DecidableEq, Repr

/-- The options of `grep`. -/
def grepOptions : OptionTable where
  letters :=
    ("abcEFGHhiIlLnoqrRsTuvVwxyPUZz0123456789".toList.map fun c => (c, Takes.nothing)) ++
      ("ABCDdefmX".toList.map fun c => (c, Takes.value))
  names := [("basic-regexp", "G", .nothing), ("extended-regexp", "E", .nothing),
    ("fixed-regexp", "F", .nothing), ("fixed-strings", "F", .nothing), ("perl-regexp", "P", .nothing),
    ("after-context", "A", .value), ("before-context", "B", .value),
    ("binary-files", "binary-files", .value), ("byte-offset", "b", .nothing), ("context", "C", .value),
    ("color", "color", .valueOr "auto"), ("colour", "color", .valueOr "auto"), ("count", "c", .nothing),
    ("devices", "D", .value), ("directories", "d", .value), ("exclude", "exclude", .value),
    ("exclude-from", "exclude-from", .value), ("exclude-dir", "exclude-dir", .value),
    ("file", "f", .value), ("files-with-matches", "l", .nothing),
    ("files-without-match", "L", .nothing), ("group-separator", "group-separator", .value),
    ("help", "usage", .nothing), ("include", "include", .value), ("ignore-case", "i", .nothing),
    ("no-ignore-case", "no-ignore-case", .nothing), ("initial-tab", "T", .nothing),
    ("label", "label", .value), ("line-buffered", "line-buffered", .nothing),
    ("line-number", "n", .nothing), ("line-regexp", "x", .nothing), ("max-count", "m", .value),
    ("no-filename", "h", .nothing), ("no-group-separator", "no-group-separator", .nothing),
    ("no-messages", "s", .nothing), ("null", "Z", .nothing), ("null-data", "z", .nothing),
    ("only-matching", "o", .nothing), ("quiet", "q", .nothing), ("recursive", "r", .nothing),
    ("dereference-recursive", "R", .nothing), ("regexp", "e", .value), ("invert-match", "v", .nothing),
    ("silent", "q", .nothing), ("text", "a", .nothing), ("binary", "U", .nothing),
    ("unix-byte-offsets", "u", .nothing), ("version", "V", .nothing), ("with-filename", "H", .nothing),
    ("word-regexp", "w", .nothing)]

/-- How a search is to be called. -/
def grepUsage : Raw :=
  "Usage: grep [OPTION]... PATTERNS [FILE]...\nTry 'grep --help' for more information.\n".toList

/-- The lines of a text, of which the last one may be empty. -/
def patternLines (text : Raw) : List Raw :=
  match text with
  | [] => [[]]
  | c :: cs =>
    match patternLines cs with
    | [] => [[c]]
    | l :: ls => if c = '\n' then [] :: l :: ls else (c :: l) :: ls

/-- The number that a text is. -/
def count? (text : Raw) : Option Int :=
  match text with
  | '-' :: ds => (Raw.nat? ds).map fun n => -(n : Int)
  | '+' :: ds => (Raw.nat? ds).map fun n => (n : Int)
  | ds => (size? ds).map fun n => (n : Int)

/-- The patterns that options and arguments ask for, and the files to search. -/
def askedPatterns (i : ToolInput) (o : Operands) : Except ToolResult (List Raw × List Raw) := do
  if o.has "e" ∨ o.has "f" then
    let texts ← o.options.mapM fun ((key, value) : String × Raw) =>
      if key = "e" then .ok (patternLines value)
      else if key = "f" then
        match fileText i value with
        | .ok text => .ok ((Raw.lines text).map Raw.chomp)
        | .error fault => .error (.ofErrors (said i (value ++ ": ".toList ++ faultText fault)) 2)
      else .ok []
    return (texts.flatten, o.others)
  else
    match o.others with
    | [] => throw (.ofErrors grepUsage 2)
    | pattern :: files => return (patternLines pattern, files)

/-- The number of lines around matches that an option asks for. -/
def askedContext (i : ToolInput) (o : Operands) (key : String) : Except ToolResult (Option Nat) :=
  match o.value? key with
  | none => .ok none
  | some text =>
    match count? text with
    | some (.ofNat n) => .ok (some n)
    | _ => .error (.ofErrors (said i (text ++ ": invalid context length argument".toList)) 2)

/-- The number that single digits among the options make together. -/
def digitOptions (o : Operands) : Option Nat :=
  let digits := o.options.flatMap fun ((key, _) : String × Raw) =>
    if (key.toList.head?.map Number.isDigit).getD false then key.toList else []
  if digits = [] then none else some (Number.digitsValue 0 digits)

/-- The letters for ways of writing patterns by the names of the programs that have them. -/
def writers : List (Raw × String) :=
  [("grep", "G"), ("egrep", "E"), ("fgrep", "F"), ("awk", "E"), ("gawk", "E"), ("posixawk", "E"),
    ("perl", "P")].map fun (name, key) => (name.toList, key)

/-- The style of patterns that the options ask for. -/
def askedStyle (i : ToolInput) (o : Operands) : Except ToolResult PatternStyle := do
  let asked ← o.options.mapM fun ((key, value) : String × Raw) =>
    if key = "X" then
      match writers.lookup value with
      | some key => .ok key
      | none => .error (ToolResult.ofErrors (said i ("invalid matcher ".toList ++ value)) 2)
    else .ok key
  match (asked.filter fun key => ["E", "F", "G", "P"].contains key).eraseDups with
  | [] | ["G"] => return .basic
  | ["F"] => return .literal
  | ["E"] => return .extended
  | ["P"] => return .ordered
  | _ => throw (.ofErrors (said i "conflicting matchers specified".toList) 2)

/-- The words for when matches are painted: always, never, or only where someone looks at them. -/
def paintingWords : List (List String × Bool) :=
  [(["always", "yes", "force"], true), (["never", "no", "none", "auto", "tty", "if-tty"], false)]

/-- Whether a word says that matches are painted, if it is one for that. -/
def painting? (word : Raw) : Option Bool :=
  (paintingWords.find? fun words => words.1.contains (String.ofList word)).map (·.2)

/-- Whether capital and small letters count as the same; the last option for it decides. -/
def askedFolding (o : Operands) : Bool :=
  match (o.options.filter fun p => ["i", "y", "no-ignore-case"].contains p.1).getLast? with
  | some (key, _) => key != "no-ignore-case"
  | none => false

/-- The text about a search that is given up. -/
def tooLongText : Raw := "exceeded PCRE's backtracking limit".toList

/-- The ordered pattern for texts of which there must not be two. -/
def readOrdered (i : ToolInput) (manner : Ordered.Manner) (texts : List Raw) : Except ToolResult Wanted :=
  match texts.eraseDups with
  | [] => .ok (.longest [])
  | [text] =>
    match Ordered.ofText manner (Locale.characters manner.unicode text) with
    | .error fault => .error (.ofErrors (said i fault.message.toList) 2)
    | .ok pattern =>
      match pattern.find (Regex.Spot.ofLine []) with
      | .tooLong => .error (.ofErrors (said i ("(standard input): ".toList ++ tooLongText)) 2)
      | _ => .ok (.first pattern)
  | _ => .error (.ofErrors (said i "the -P option only supports a single pattern".toList) 2)

/-- What the texts of patterns ask for, with the warnings about them. -/
def readPatterns (i : ToolInput) (style : PatternStyle) (folded words whole : Bool) (texts : List Raw) :
    Except ToolResult (Wanted × List String) := do
  let unicode := isUnicode i
  if style = .ordered then
    return (← readOrdered i { unicode, folded, words, whole } texts, [])
  let manner : Regex.Manner := { extended := style != .basic, unicode, folded }
  let read ← texts.mapM fun text =>
    let text := Locale.characters unicode text
    match style with
    | .literal =>
      let e := Regex.literal text
      .ok (if folded then e.folded unicode else e, [])
    | _ =>
      match Regex.ofText manner text with
      | .ok found => .ok found
      | .error fault => .error (ToolResult.ofErrors (said i fault.message.toList) 2)
  return (.longest (read.map (·.1)), read.flatMap (·.2))

/-! ## Which files are searched -/

/-- A rule about the names of files: the ones that match a pattern are left out, or all others. -/
structure NameRule where
  admits : Bool
  pattern : Raw

/-- What follows the slashes of a name. -/
def behindSlashes : Raw → List Raw
  | [] => []
  | c :: rest =>
    if c = '/' ∧ rest.head? ≠ some '/' then rest :: behindSlashes rest else behindSlashes rest

/-- Whether a name matches a pattern.  Of a name that was given a part behind a slash may match. -/
def NameRule.matches (rule : NameRule) (given : Bool) (name : Raw) : Bool :=
  let pattern := Regex.ofWildcards (rule.pattern.map fun c => (c, false))
  pattern.matchesAll name || (given && (behindSlashes name).any pattern.matchesAll)

/-- Whether rules leave a name out.  The last rule that matches decides; if none does, it is the
reverse of what the first one says. -/
def leftOut (rules : List NameRule) (given : Bool) (name : Raw) : Bool :=
  match rules.reverse.find? (fun rule => rule.matches given name), rules.head? with
  | some rule, _ => !rule.admits
  | none, some rule => rule.admits
  | none, none => false

/-- Which files and folders are left out. -/
structure Exclusions where
  files : List NameRule
  folders : List NameRule

/-- The exclusions that the options ask for. -/
def askedExclusions (i : ToolInput) (o : Operands) : Except ToolResult Exclusions := do
  let rules ← o.options.mapM fun ((key, value) : String × Raw) =>
    if key = "include" then .ok [NameRule.mk true value]
    else if key = "exclude" then .ok [NameRule.mk false value]
    else if key = "exclude-from" then
      match fileText i value with
      | .ok text => .ok ((Raw.lines text).map fun line => NameRule.mk false (Raw.chomp line))
      | .error fault =>
        .error (ToolResult.ofErrors (said i (value ++ ": ".toList ++ faultText fault)) 2)
    else .ok []
  let folders := (o.options.filter (·.1 = "exclude-dir")).map fun ((_, value) : String × Raw) =>
    NameRule.mk false (value.reverse.dropWhile (· = '/')).reverse
  return ⟨rules.flatten, folders⟩

/-- Whether an operand is left out.  What does not exist never is, so that it is told. -/
def Exclusions.leavesOut (out : Exclusions) (i : ToolInput) (file : Raw) : Bool :=
  file ≠ ['-'] &&
    ((i.files.isFile (path file) && leftOut out.files true file) ||
      (i.files.isFolder (path file) && leftOut out.folders true file))

/-- Whether folders stand for all that is below them. -/
def recursive (o : Operands) : Bool :=
  o.has "r" || o.has "R" || o.value? "d" = some "recurse".toList

/-- The files below a folder, with the path to it; links below are passed over unless they are to be
followed. -/
def filesBelow (files : Files.FileTree) (follow : Bool) (out : Exclusions) :
    (levels : Nat) → Raw → List Raw
  | 0, _ => []
  | levels + 1, folder =>
    let head : Raw := if folder.getLast? = some '/' then folder else folder ++ ['/']
    match files.list (path folder) with
    | .error _ => []
    | .ok names =>
      names.flatMap fun name =>
        let full := head ++ Raw.ofBytes name
        match files.resolve follow (path full) with
        | .ok ⟨_, some .folder, _⟩ =>
          if leftOut out.folders false (Raw.ofBytes name) then []
          else filesBelow files follow out levels full
        | .ok ⟨_, some (.file _), _⟩ =>
          if leftOut out.files false (Raw.ofBytes name) then [] else [full]
        | _ => []

/-- More levels than folders have. -/
def folderLevels : Nat := 1000

/-- The files to search, and whether some of them were found in folders.  Without operands the input is
searched, or the working folder with all that is below it. -/
def searchedFiles (i : ToolInput) (o : Operands) (out : Exclusions) (operands : List Raw) :
    List Raw × Bool :=
  let below := filesBelow i.files (o.has "R") out folderLevels
  if operands = [] then
    if recursive o then ((below ['.']).map (·.drop 2), true) else ([['-']], false)
  else
    let isExpanded (file : Raw) : Bool := recursive o && i.files.isFolder (path file)
    ((operands.filter fun file => !out.leavesOut i file).flatMap fun file =>
      if isExpanded file then below file else [file],
      operands.any isExpanded)

/-- The line between groups of lines that the last option for it asks for. -/
def askedSeparator (o : Operands) : Option Raw :=
  let asked := o.options.filter fun ((key, _) : String × Raw) =>
    key = "group-separator" || key = "no-group-separator"
  match asked.getLast? with
  | none => some ['-', '-']
  | some (key, text) => if key = "group-separator" then some text else none

/-- The search that the options ask for, the files, and the warnings about the patterns. -/
def readSearch (i : ToolInput) (o : Operands) :
    Except ToolResult (Search × List Raw × List String) := do
  let after ← askedContext i o "A"
  let before ← askedContext i o "B"
  let both ← askedContext i o "C"
  let most ← match o.value? "m" with
    | none => .ok none
    | some text =>
      match count? text with
      | none => .error (.ofErrors (said i "invalid max count".toList) 2)
      | some (.ofNat n) => .ok (some n)
      | some _ => .ok none
  let methods := ["read", "skip"]
  let types := ["binary", "text", "without-match"]
  let folders := ["read", "recurse", "skip"]
  match (o.options.filter (·.1 = "d")).find? fun p => !folders.contains (String.ofList p.2) with
  | some (_, text) =>
    let valid := folders.map fun word => "  - ".toList ++ quotedFor i word.toList ++ ['\n']
    throw (.ofErrors (said i ("invalid argument ".toList ++ quotedFor i text ++ " for ".toList ++
      quotedFor i "--directories".toList) ++ "Valid arguments are:\n".toList ++ valid.flatten ++ grepUsage) 1)
  | none => pure ()
  if (o.options.filter (·.1 = "D")).any fun p => !methods.contains (String.ofList p.2) then
    throw (.ofErrors (said i "unknown devices method".toList) 2)
  if (o.options.filter (·.1 = "binary-files")).any fun p => !types.contains (String.ofList p.2) then
    throw (.ofErrors (said i "unknown binary-files type".toList) 2)
  let style ← askedStyle i o
  let (texts, files) ← askedPatterns i o
  let (wanted, warnings) ← readPatterns i style (askedFolding o) (o.has "w") (o.has "x") texts
  let context := both.or (digitOptions o)
  let out ← askedExclusions i o
  let (searched, below) := searchedFiles i o out files
  let naming := o.options.filter fun ((key, _) : String × Raw) => key = "H" || key = "h"
  let binaries := (o.value? "binary-files").map String.ofList
  let search : Search := {
    wanted
    unicode := isUnicode i
    inverted := o.has "v"
    words := o.has "w"
    whole := o.has "x"
    most
    counted := o.has "c"
    quiet := o.has "q"
    onlyMatching := o.has "o"
    numbered := o.has "n"
    offsets := o.has "b"
    namesWith := o.has "l"
    namesWithout := o.has "L" && !o.has "l"
    labelled := match naming.getLast? with
      | some (key, _) => key = "H"
      | none => below || 1 < files.length
    silent := o.has "s"
    text := o.has "a" || binaries = some "text"
    skipBinary := o.has "I" || binaries = some "without-match"
    before := (before.or context).getD 0
    after := (after.or context).getD 0
    context := (before.or (after.or context)).isSome && !o.has "o"
    separator := askedSeparator o
    ending := if o.has "z" then '\x00' else '\n'
    nameEnding := if o.has "Z" then some '\x00' else none
    aligned := o.has "T"
    painted := ((o.value? "color").bind painting?).getD false }
  let obsolete :=
    if o.has "u" then ["--unix-byte-offsets (-u) is obsolete"] else []
  return (search, searched, obsolete ++ warnings)

/-- What is known after some of the files have been searched. -/
structure SearchState where
  result : ToolResult := {}
  /-- A line has been selected. -/
  any : Bool := false
  failed : Bool := false
  /-- Lines have been printed. -/
  printed : Bool := false
  /-- The search has been given up. -/
  stopped : Bool := false

/-- The width of numbers of lines of the input, whose size is not known. -/
def inputWidth : Nat := 19

/-- Prints what a search finds in a text. -/
def searchText (i : ToolInput) (s : Search) (name : Raw) (fromInput : Bool) (state : SearchState)
    (text : Raw) : SearchState :=
  let size := text.length + (if s.numbered then 1 else 0)
  let width := if fromInput then inputWidth else (Number.digits size).length
  let s := if s.aligned then { s with width } else s
  let all := s.looksAt text
  let known := all.takeWhile fun line => !s.exceeds (s.bare line)
  let lines := s.survey 1 0 0 known
  let found := lines.filter fun l => l.selected
  let enough := s.most.isSome || s.quiet || s.namesWith || s.namesWithout
  let r := state.result
  let r := match found.getLast? with
    | some l =>
      if fromInput && enough then { r with taken := some (l.offset + l.line.length + 1) } else r
    | none => r
  let selected := !found.isEmpty
  let told := Written.errors (said i (name ++ ": binary file matches".toList))
  let r := if s.counted && !s.quiet then
      r.print ((if s.labelled then s.labelName name ':' else []) ++ Number.digits found.length ++
        ['\n'])
    else r
  if known.length < all.length ∧ !(s.quiet && selected) then
    let shows := !s.counted && !s.namesWith && !s.namesWithout && !s.quiet
    let texts := if shows then (s.printLines name state.printed lines).texts else []
    let told := Written.errors (said i (name ++ ": ".toList ++ tooLongText))
    let result := state.result.print texts.reverse.flatten
    { state with
      result := { result with written := result.written ++ [told] }
      failed := true
      stopped := true }
  else if s.quiet then { state with result := r, any := state.any || selected }
  else if s.namesWith then
    { state with
      result := if selected then r.print (s.lineOfName name) else r
      any := state.any || selected }
  else if s.namesWithout then
    { state with
      result := if selected then r else r.print (s.lineOfName name)
      any := state.any || selected }
  else if s.counted then { state with result := r, any := state.any || selected }
  else if s.isBinary text then
    { state with
      result := if selected then { r with written := r.written ++ [told] } else r
      any := state.any || selected }
  else
    let p := s.printLines name state.printed lines
    let r := r.print p.texts.reverse.flatten
    { state with
      result := if p.isCut then { r with written := r.written ++ [told] } else r
      any := state.any || selected
      printed := p.used }

/-- Searches a file, unless all is known. -/
def searchFile (i : ToolInput) (s : Search) (label : Raw) (skipFolders : Bool) (state : SearchState)
    (file : Raw) : SearchState :=
  let name := if file = ['-'] then label else file
  let fail (text : Raw) : SearchState :=
    let told := Written.errors (said i (name ++ ": ".toList ++ text))
    let written := state.result.written ++ (if s.silent then [] else [told])
    { state with result := { state.result with written }, failed := true }
  let copies := !s.quiet && !s.namesWith && !s.namesWithout && s.most != some 1
  if state.stopped || (s.quiet && state.any) then state
  else
    match fileText i file with
    | .ok text =>
      if copies && isOutput i file then fail "input file is also the output".toList
      else searchText i s name (file = ['-']) state text
    | .error fault =>
      if skipFolders ∧ fault = Files.Fault.isFolder then state else fail (faultText fault)

/-- Prints the lines of files, or of the input, that match a pattern. -/
def grep : Tool := fun i =>
  match readOptions grepOptions (i.arguments.length + 1) i.arguments with
  | .error fault => .ofErrors (said i fault ++ grepUsage) 2
  | .ok o =>
    let isUnsure := o.options.any fun p => p.1 = "color" && (painting? p.2).isNone
    if o.has "V" then versionOf i "grep"
    else if o.has "usage" || isUnsure then helpOf i "grep"
    else match readSearch i o with
    | .error r => r
    | .ok (search, searched, warnings) =>
      let label := (o.value? "label").getD "(standard input)".toList
      let told := warnings.map fun text => Written.errors (said i ("warning: ".toList ++ text.toList))
      let skipFolders := o.value? "d" = some "skip".toList
      let state := searched.foldl (searchFile i search label skipFolders)
        { result := { written := told } }
      let code :=
        if search.quiet && state.any then 0 else if state.failed then 2 else if state.any then 0 else 1
      { state.result with code }

/-- Searches with another way of writing patterns. -/
def grepIn (style : String) : Tool := fun i =>
  grep { i with name := "grep".toList, arguments := style.toList :: i.arguments }

end Tool

end PlannerTrials.Host
