import PlannerTrials.Host.Calculation
import PlannerTrials.Host.Regex.Wildcard
import PlannerTrials.Host.Shell.State

/-!
# What words stand for

A word is first turned into pieces, characters of which it is known whether they were quoted and whether
a word may be split at them.  Pieces are then split into fields, and a field that is a pattern for
names is replaced by the names of the files that it matches, in order, if there are any.

Scripts inside of words are run by a `Substitution`, which gives their output.
-/

namespace PlannerTrials.Host

open Files (FileTree)

/-- A piece of a word. -/
inductive Piece where
  /-- A character, quoted or not; words are split at it if it comes from a value. -/
  | char (c : Char) (quoted splits : Bool)
  /-- Something was quoted here, so that there is a word even if it is empty. -/
  | mark
  /-- One argument ends and the next one starts. -/
  | gap
  deriving DecidableEq

/-- A way to run a script for its output. -/
abbrev Substitution := Option Script → Run Raw

namespace Piece

/-- The characters of a text. -/
def ofText (quoted splits : Bool) (cs : Raw) : List Piece := cs.map fun c => char c quoted splits

/-- The text of pieces that are not split; between arguments there is some glue. -/
def text (glue : Raw) (pieces : List Piece) : Raw :=
  pieces.flatMap fun
    | .char c _ _ => [c]
    | .mark => []
    | .gap => glue

/-- Whether words are split at a piece. -/
def isSeparator (separators : Raw) : Piece → Bool
  | .char c quoted splits => splits && !quoted && separators.contains c
  | _ => false

/-- Whether a separator is a blank. -/
def isBlank : Piece → Bool
  | .char c _ _ => c = ' ' || c = '\t' || c = '\n'
  | _ => false

/-- Splits pieces into fields.  `current` is the field that has begun, backwards, and `closed` says
that a field has just been ended by blanks, which may belong to another separator. -/
def fields (separators : Raw) : (current : Option (List Piece)) → (closed : Bool) → List Piece →
    List (List Piece)
  | none, _, [] => []
  | some field, _, [] => [field.reverse]
  | current, closed, piece :: rest =>
    let ended : List (List Piece) := match current with
      | some field => [field.reverse]
      | none => []
    match piece with
    | .gap => ended ++ fields separators none false rest
    | .mark => fields separators (some (current.getD [])) false rest
    | piece =>
      if piece.isSeparator separators then
        if piece.isBlank then ended ++ fields separators none (closed || current.isSome) rest
        else if current.isSome then ended ++ fields separators none false rest
        else if closed then fields separators none false rest
        else [] :: fields separators none false rest
      else fields separators (some (piece :: current.getD [])) false rest

/-! ## Patterns -/

/-- The letters of pieces. -/
def letters (glue : Raw) (pieces : List Piece) : Wildcard.Letters :=
  pieces.flatMap fun
    | .char c quoted _ => [(c, quoted)]
    | .mark => []
    | .gap => glue.map fun c => (c, true)

/-- The expression that pieces mean as a pattern; a backslash from a value quotes what follows. -/
def toRegex (glue : Raw) (pieces : List Piece) : Regex := .ofWildcards (letters glue pieces)

/-- A text without the start or the end that a pattern matches, the shortest or the longest. -/
def cut (atEnd longest : Bool) (pattern : Regex) (cs : Raw) : Raw :=
  let lengths : List Nat := if atEnd then
      (List.range (cs.length + 1)).filter fun n => pattern.matchesAll (cs.drop (cs.length - n))
    else (pattern.ends (Regex.Spot.ofLine cs)).map fun s => cs.length - s.left
  let best := if longest then lengths.foldl max 0 else lengths.foldl min cs.length
  if lengths.isEmpty then cs else if atEnd then cs.take (cs.length - best) else cs.drop best

/-! ## Names of files -/

/-- Whether letters have a sign that makes them a pattern. -/
def isPattern (cs : Wildcard.Letters) : Bool :=
  cs.any fun (c, quoted) => !quoted && (c = '*' || c = '?' || c = '[')

/-- Letters between slashes. -/
def components (cs : Wildcard.Letters) : List Wildcard.Letters :=
  cs.foldr
    (fun c parts =>
      match parts with
      | part :: rest => if c.1 = '/' then [] :: part :: rest else (c :: part) :: rest
      | [] => [[c]])
    [[]]

/-- The names of files that a pattern with several components matches, after a path. -/
def namesFrom (files : FileTree) (path : Raw) : List Wildcard.Letters → List Raw
  | [] => []
  | [last] =>
    if isPattern last then matching path last
    else
      let full := path ++ last.map (·.1)
      match files.resolve false (Raw.toString full) with
      | .ok ⟨_, some _, _⟩ => [full]
      | _ => []
  | part :: rest =>
    if isPattern part then
      (matching path part).flatMap fun full => namesFrom files (full ++ ['/']) rest
    else namesFrom files (path ++ part.map (·.1) ++ ['/']) rest
where
  /-- The names in a folder that match. -/
  matching (path : Raw) (part : Wildcard.Letters) : List Raw :=
    let pattern := Regex.ofWildcards part
    let folder := if path = [] then "." else Raw.toString path
    match files.list folder with
    | .error _ => []
    | .ok names =>
      let points : List Raw := [['.'], ['.', '.']]
      ((points ++ names.map Raw.ofBytes).filter fun name =>
        (name.head? ≠ some '.' || part.head?.map (·.1) = some '.') && pattern.matchesAll name).map
          (path ++ ·)

/-- The words that a field stands for. -/
def names (files : FileTree) (noNames : Bool) (glue : Raw) (field : List Piece) : List Raw :=
  let cs := letters glue field
  let plain := cs.map (·.1)
  if noNames || !isPattern cs then [plain]
  else
    match namesFrom files [] (components cs) with
    | [] => [plain]
    | found => found.mergeSort fun a b => decide (String.ofList a ≤ String.ofList b)

end Piece

namespace Run

/-- The home folder of a user; without a name, of the one who runs the shell. -/
def homeOf (name : Raw) : Run (Option Raw) := do
  if name = [] then return (← get).stored? "HOME".toList
  else return if name = "root".toList then some "/root".toList else none

/-- The parts of a text with tildes replaced where a path starts, which is at the start of the word and,
in an assignment, after each colon.  `more` says that other parts follow. -/
def tildes (assigning more : Bool) : (fuel : Nat) → (starts : Bool) → (before : Raw) → Raw →
    Run (List Part)
  | 0, _, before, cs => return [.text false (before.reverse ++ cs)]
  | _, _, before, [] => return [.text false before.reverse]
  | fuel + 1, starts, before, c :: cs => do
    let ends (c : Char) : Bool := c = '/' || (assigning && c = ':')
    let name := cs.takeWhile fun c => !ends c
    let rest := cs.drop name.length
    let found ← if starts && c = '~' && !(rest.isEmpty && more) then homeOf name else pure none
    match found with
    | some path =>
      let others ← tildes assigning more fuel false [] rest
      return .text false before.reverse :: .text true path :: others
    | none => tildes assigning more fuel (assigning && c = ':') (c :: before) cs

/-- A word with its tildes replaced. -/
def withHome (assigning : Bool) : (starts : Bool) → Word → Run Word
  | _, [] => return []
  | starts, .text false cs :: rest => do
    let first ← if starts || assigning then
        tildes assigning (!rest.isEmpty) (cs.length + 1) starts [] cs
      else pure [.text false cs]
    return first ++ (← withHome assigning (assigning && cs.getLast? = some ':') rest)
  | _, part :: rest => do return part :: (← withHome assigning false rest)

/-- The pieces of a value that is not quoted, or is. -/
def valuePieces (quoted : Bool) (name : Raw) : Run (Option (List Piece)) := do
  let sh ← get
  match name with
  | ['@'] =>
    if quoted then
      let arguments := sh.arguments.map fun a => .mark :: Piece.ofText true false a
      return some ([Piece.gap].intercalate arguments)
    else return some ([Piece.gap].intercalate (sh.arguments.map (Piece.ofText false true)))
  | ['*'] =>
    if quoted then return some (Piece.ofText true false (sh.glue.intercalate sh.arguments))
    else return some ([Piece.gap].intercalate (sh.arguments.map (Piece.ofText false true)))
  | name => return (sh.value? name).map (Piece.ofText quoted true)

/-- What is told about a parameter without value. -/
def missing {α : Type} (name message : Raw) : Run α := raise (name ++ ": ".toList ++ message)

/-- The pieces of the parts of a word, for so many levels of words inside of words.  `inner` says
that the word stands for a value, so that it may be split itself. -/
def pieces (substitute : Substitution) : (levels : Nat) → (inner : Bool) → List Part →
    Run (List Piece)
  | 0, _, _ => return []
  | _, _, [] => return []
  | levels + 1, inner, part :: parts => do
    let found : List Piece ← match part with
      | .text quoted cs =>
        pure (if quoted then .mark :: Piece.ofText true false cs else Piece.ofText false inner cs)
      | .command quoted script => do
        let text ← substitute script
        pure (Piece.ofText quoted true text)
      | .calculation quoted expression => do
        let text := Piece.text [' '] (← pieces substitute levels false expression)
        let sh ← get
        match Calculation.value (fun name => (sh.value? name).getD []) text with
        | .ok (n, assigned) =>
          assigned.reverse.forM fun (name, value) => assign name (Raw.ofInt value) false
          pure (Piece.ofText quoted true (Raw.ofInt n))
        | .error fault => raise (fault.message text)
      | .parameter quoted name use orEmpty word => do
        let value ← valuePieces quoted name
        let present := match value with
          | none => false
          | some found => !(orEmpty && Piece.text [] found = [])
        let strict := (← get).has 'u'
        match use with
        | .invalid => raise "Bad substitution".toList
        | .instead =>
          if present then pure (value.getD [])
          else pieces substitute levels (!quoted) word
        | .alternative =>
          if present then pieces substitute levels (!quoted) word else pure []
        | .required =>
          if present then pure (value.getD [])
          else if word.isEmpty then
            missing name ("parameter not set".toList ++ (if orEmpty then " or null".toList else []))
          else
            let text := Piece.text [' '] (← pieces substitute levels false word)
            missing name text
        | .assigned =>
          if present then pure (value.getD [])
          else
            let text := Piece.text [' '] (← pieces substitute levels false word)
            if !Word.isName name then raise (name ++ ": bad variable name".toList)
            else
              assign name text false
              pure (Piece.ofText quoted true text)
        | .length =>
          if strict && value.isNone then missing name "parameter not set".toList
          else
            let sh ← get
            pure (Piece.ofText quoted true
              (Number.digits ((sh.value? name).getD []).length))
        | .cut atEnd longest =>
          if strict && value.isNone then missing name "parameter not set".toList
          else
            let sh ← get
            let pattern := Piece.toRegex sh.glue (← pieces substitute levels false word)
            pure (Piece.ofText quoted true
              (Piece.cut atEnd longest pattern ((sh.value? name).getD [])))
        | .plain =>
          if strict && value.isNone then missing name "parameter not set".toList
          else pure (value.getD [])
    let rest ← pieces substitute levels inner parts
    return found ++ rest

/-- More levels than words have. -/
def wordLevels : Nat := 10000

/-- The words that a word stands for. -/
def fieldsOf (substitute : Substitution) (word : Word) : Run (List Raw) := do
  let found ← pieces substitute wordLevels false (← withHome false true word)
  let sh ← get
  let fields := Piece.fields sh.separators none false found
  return fields.flatMap (Piece.names sh.files (sh.has 'f') sh.glue)

/-- The words that a list of words stands for. -/
def allFields (substitute : Substitution) : List Word → Run (List Raw)
  | [] => return []
  | word :: words => do
    let first ← fieldsOf substitute word
    return first ++ (← allFields substitute words)

/-- The one text that a word stands for where words are not split. -/
def textOf (substitute : Substitution) (word : Word) : Run Raw := do
  let found ← pieces substitute wordLevels false (← withHome false true word)
  return Piece.text (← get).glue found

/-- The value that a word stands for in an assignment. -/
def assignedText (substitute : Substitution) (word : Word) : Run Raw := do
  let found ← pieces substitute wordLevels false (← withHome true true word)
  return Piece.text (← get).glue found

/-- The pattern that a word stands for. -/
def patternOf (substitute : Substitution) (word : Word) : Run Regex := do
  let found ← pieces substitute wordLevels false (← withHome false true word)
  return Piece.toRegex (← get).glue found

end Run

end PlannerTrials.Host
