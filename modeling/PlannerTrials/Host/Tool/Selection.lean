import PlannerTrials.Host.Ordered.Matching
import PlannerTrials.Host.Ordered.Written
import PlannerTrials.Host.Regex.Written
import PlannerTrials.Host.Tool.Basic
import PlannerTrials.Text.Pad

/-!
# Selecting lines

A search selects the lines of a text that match one of its patterns, or those that do not, and prints
them with labels or counts them.  A text with NUL is binary.  It is taken apart at each NUL, and that it
matches is only told on the second output.

Where bytes are read as UTF-8, a line with bytes that are no part of a character is searched like any
other, but instead of the line it is told at the end that there was one.
-/

namespace PlannerTrials.Host

namespace Tool

/-- What lines are searched for. -/
inductive Wanted where
  /-- The longest match of one of some expressions. -/
  | longest (expressions : List Regex)
  /-- The first match of an ordered pattern, which says itself whether it matches words or lines only. -/
  | first (pattern : Ordered)

/-- What is asked of a search for lines. -/
structure Search where
  wanted : Wanted
  /-- Lines are read as UTF-8. -/
  unicode : Bool
  inverted : Bool
  /-- Whole words or whole lines only. -/
  words : Bool
  whole : Bool
  /-- The most lines of a file. -/
  most : Option Nat
  counted : Bool
  quiet : Bool
  onlyMatching : Bool
  numbered : Bool
  offsets : Bool
  /-- Only the names of files with matches, or of those without. -/
  namesWith : Bool
  namesWithout : Bool
  labelled : Bool
  silent : Bool
  text : Bool
  skipBinary : Bool
  before : Nat
  after : Nat
  /-- Lines around matches are printed, and groups of lines are set apart. -/
  context : Bool
  /-- The line that sets groups of lines apart. -/
  separator : Option Raw
  /-- The character at the end of a line. -/
  ending : Char
  /-- What follows the name of a file in the place of the usual sign. -/
  nameEnding : Option Char
  /-- Numbers and lines stand in columns. -/
  aligned : Bool
  /-- Matches, names, numbers and the signs between them are painted. -/
  painted : Bool
  /-- The width of numbers. -/
  width : Nat := 0

namespace Search

/-- Whether a stretch between two places counts as a match. -/
def accepts (s : Search) (a b : Regex.Spot) : Bool :=
  (!s.whole || (a.before.isEmpty && b.rest.isEmpty)) &&
    (!s.words || s.whole || (!a.wordBefore s.unicode && !b.wordAfter s.unicode))

/-- The first match from a place on, the leftmost one, and the longest of those unless an ordered pattern
is searched for. -/
def find? (s : Search) (start : Regex.Spot) : Option (Regex.Spot × Regex.Spot) :=
  match s.wanted with
  | .first pattern =>
    match pattern.find start with
    | .stretch a b => some (a, b)
    | _ => none
  | .longest expressions =>
    expressions.foldl
      (fun best e =>
        match best, e.find? s.accepts start with
        | none, found => found
        | best, none => best
        | some (a, b), some (c, d) =>
          if a.left < c.left ∨ (a.left = c.left ∧ d.left < b.left) then some (c, d) else some (a, b))
      none

/-- The start of a line. -/
def startOf (s : Search) (line : Raw) : Regex.Spot :=
  Regex.Spot.ofLine (Locale.characters s.unicode line)

/-- The bytes between two places of a line. -/
def between (s : Search) (a b : Regex.Spot) : Raw :=
  (a.rest.take (a.left - b.left)).flatMap (Locale.bytesOf s.unicode)

/-- Whether a line cannot be shown, since not all of it is text. -/
def isGarbled (s : Search) (line : Raw) : Bool :=
  s.unicode && !s.text && (Locale.characters true line).any Locale.isStray

/-- Whether it takes too long to know whether a line is selected. -/
def exceeds (s : Search) (line : Raw) : Bool :=
  match s.wanted with
  | .first pattern => (pattern.find (s.startOf line) matches .tooLong)
  | .longest _ => false

/-- Whether a line is selected. -/
def selects (s : Search) (line : Raw) : Bool := (s.find? (s.startOf line)).isSome != s.inverted

/-- The matches that are not empty from a place with an offset on, with their offsets. -/
def matchesFrom (s : Search) : (fuel offset : Nat) → Regex.Spot → List (Nat × Raw)
  | 0, _, _ => []
  | fuel + 1, offset, start =>
    match s.find? start with
    | none => []
    | some (a, b) =>
      let offset := offset + (s.between start a).length
      if a.left = b.left then
        if a.rest.isEmpty then []
        else
          let next := a.advance 1
          s.matchesFrom fuel (offset + (s.between a next).length) next
      else
        let found := s.between a b
        (offset, found) :: s.matchesFrom fuel (offset + found.length) b

/-- The matches in a line that are not empty, with their offsets, up to one that cannot be shown, and
whether there is such a one. -/
def matchesIn (s : Search) (line : Raw) : List (Nat × Raw) × Bool :=
  let found := s.matchesFrom (line.length + 1) 0 (s.startOf line)
  let shown := found.takeWhile fun m => !s.isGarbled m.2
  (shown, shown.length < found.length)

/-- The lines of a text, each with its ending if it has one. -/
def linesOf (s : Search) : Raw → List Raw
  | [] => []
  | c :: cs =>
    if c = s.ending then [c] :: s.linesOf cs
    else
      match s.linesOf cs with
      | [] => [[c]]
      | l :: ls => (c :: l) :: ls

/-- Whether a text is binary, which it is if it has NUL but its lines do not end with it. -/
def isBinary (s : Search) (text : Raw) : Bool :=
  !s.text && s.ending ≠ '\x00' && text.contains '\x00'

/-- The lines of a text that are looked at.  In a binary text NUL ends a line, too. -/
def looksAt (s : Search) (text : Raw) : List Raw :=
  if !s.isBinary text then s.linesOf text
  else if s.skipBinary then []
  else s.linesOf (text.map fun c => if c = '\x00' then s.ending else c)

/-- A line without its ending. -/
def bare (s : Search) (line : Raw) : Raw := if line.getLast? = some s.ending then line.dropLast else line

/-- A line with its number and its offset. -/
structure Numbered where
  line : Raw
  number : Nat
  offset : Nat
  selected : Bool

/-- The lines of a text with their numbers, up to the line that completes the most lines asked for and
the lines after it. -/
def survey (s : Search) : (number offset found : Nat) → List Raw → List Numbered
  | _, _, _, [] => []
  | number, offset, found, line :: rest =>
    let bare := s.bare line
    let done := match s.most with
      | some most => most ≤ found
      | none => false
    let selected := !done && s.selects bare
    if done ∧ s.after = 0 then []
    else if done ∧ s.selects bare then []
    else
      ⟨bare, number, offset, selected⟩ ::
        s.survey (number + 1) (offset + line.length) (if selected then found + 1 else found) rest

/-! ## Lines as they are printed

Where parts of a line are painted, the color is set before each of them and taken back after it, and each
time the rest of the line on the screen is cleared.
-/

/-- The colors of what is printed, as a terminal knows them. -/
inductive Paint where
  | found
  | name
  | number
  | mark
  deriving DecidableEq, Repr

/-- The number of a color. -/
def Paint.code : Paint → String
  | .found => "01;31"
  | .name => "35"
  | .number => "32"
  | .mark => "36"

/-- A text in a color, if colors are used. -/
def paint (s : Search) (color : Paint) (text : Raw) : Raw :=
  if s.painted then "\x1b[".toList ++ color.code.toList ++ "m\x1b[K".toList ++ text ++ "\x1b[m\x1b[K".toList
  else text

/-- A number before a line. -/
def labelNumber (s : Search) (n : Nat) : Raw := s.paint .number (Text.padLeft s.width (Number.digits n))

/-- A name of a file with the sign after it. -/
def labelName (s : Search) (file : Raw) (mark : Char) : Raw :=
  s.paint .name file ++
    match s.nameEnding with
    | some c => [c]
    | none => s.paint .mark [mark]

/-- A name of a file on a line of its own. -/
def lineOfName (s : Search) (file : Raw) : Raw := s.paint .name file ++ [s.nameEnding.getD '\n']

/-- What stands before a line; the mark tells matching lines from others. -/
def labelOf (s : Search) (file : Raw) (number offset : Nat) (mark : Char) (line : Raw) : Raw :=
  let label := (if s.labelled then s.labelName file mark else []) ++
    (if s.numbered then s.labelNumber number ++ s.paint .mark [mark] else []) ++
    (if s.offsets then s.labelNumber offset ++ s.paint .mark [mark] else [])
  if s.aligned && !label.isEmpty && !line.isEmpty then label ++ ['\t'] else label

/-- The line that sets groups of lines apart. -/
def separatorLine (s : Search) : Raw :=
  match s.separator with
  | some text => s.paint .mark text ++ ['\n']
  | none => []

/-- A line with its matches in their color. -/
def paintedLine (s : Search) (line : Raw) : Raw :=
  let found := (s.matchesIn line).1
  let ends := found.map fun (start, text) => start + text.length
  let between := (0 :: ends).zip ((found.map (·.1)) ++ [line.length])
  let parts := between.map fun (a, b) => (line.take b).drop a
  (parts.zip (found.map fun m => s.paint .found m.2)).flatMap (fun (a, b) => a ++ b) ++
    (parts.drop found.length).flatten

/-- What is printed of a line, and whether a part of it cannot be shown. -/
def printLine (s : Search) (file : Raw) (l : Numbered) : Raw × Bool :=
  let isMatching := l.selected != s.inverted
  if s.onlyMatching then
    if l.selected ∧ ¬s.inverted then
      let (shown, isCut) := s.matchesIn l.line
      (shown.flatMap fun (at_, found) =>
        s.labelOf file l.number (l.offset + at_) ':' found ++ s.paint .found found ++ [s.ending], isCut)
    else ([], false)
  else if s.isGarbled l.line then ([], true)
  else
    (s.labelOf file l.number l.offset (if l.selected then ':' else '-') l.line ++
      (if s.painted && isMatching then s.paintedLine l.line else l.line) ++ [s.ending], false)

/-! ## Lines around the selected ones

A selected line may be printed with lines before and after it.  The lines after it are only printed when
it is known how many of them there are, with the next selected line or at the end.  A line that cannot be
shown counts as printed, but does not move the place at which lines are printed on.
-/

/-- What has been printed of a text. -/
structure Printing where
  /-- The printed texts, the last one first. -/
  texts : List Raw := []
  /-- The number of the line after the last one that was printed. -/
  next : Option Nat := none
  /-- How many lines may still be printed after the last selected one. -/
  pending : Nat := 0
  /-- Lines have been printed, also of other texts. -/
  used : Bool
  /-- A line cannot be shown. -/
  isCut : Bool := false

/-- Prints one line. -/
def put (s : Search) (file : Raw) (l : Numbered) (p : Printing) : Printing :=
  let (text, isCut) := s.printLine file l
  { p with
    texts := text :: p.texts
    next := if isCut then p.next else some (l.number + 1)
    isCut := p.isCut || isCut }

/-- Prints the lines after a selected one, up to a line. -/
def putPending (s : Search) (file : Raw) (lines : Array Numbered) (limit : Nat) :
    (pending : Nat) → Printing → Printing
  | 0, p => { p with pending := 0 }
  | pending + 1, p =>
    let n := p.next.getD 1
    if limit ≤ n then { p with pending := pending + 1 }
    else
      match lines[n - 1]? with
      | some l => s.putPending file lines limit pending (s.put file { l with selected := false } p)
      | none => { p with pending := 0 }

/-- Prints a selected line with what belongs before it. -/
def putSelected (s : Search) (file : Raw) (lines : Array Numbered) (p : Printing) (l : Numbered) :
    Printing :=
  let before := if s.context then s.before else 0
  let continued := s.inverted && 1 < l.number &&
    ((lines[l.number - 2]?).map (·.selected)).getD false
  let p := if continued then p else
    let p := s.putPending file lines l.number p.pending p
    let first := max (p.next.getD 1) (l.number - before)
    let p := if s.context && p.used && p.next != some first then
        { p with texts := s.separatorLine :: p.texts }
      else p
    (lines.extract (first - 1) (l.number - 1)).foldl (fun p l => s.put file l p) p
  { s.put file l p with pending := if s.context then s.after else 0, used := true }

/-- Prints the selected lines of a text and those around them. -/
def printLines (s : Search) (file : Raw) (used : Bool) (lines : List Numbered) : Printing :=
  let all := lines.toArray
  let p := (lines.filter (·.selected)).foldl (s.putSelected file all) { used }
  s.putPending file all (lines.length + 1) p.pending p

end Search

end Tool

end PlannerTrials.Host
