import PlannerTrials.Toml.Node
import PlannerTrials.Toml.Scalar
import PlannerTrials.Toml.Text

/-!
# Documents in TOML

`Toml.read` takes the text of a document to its top table, or to nothing where the text is not a
document.  A document is a sequence of statements, each on a line of its own: headers in single or
double brackets, and keys with values.  The statements are read first and then carried out in order
on the growing tables of `PlannerTrials.Toml.Node`.

Arrays and inline tables have the same outer form, items between commas with a comma allowed at the
end, so one reader of items serves both.  They nest at most `deepest` levels, which makes the reader
of values a recursion on the levels that are left.  A key has at most as many parts.  Inside an inline
table line breaks and comments may stand around the equals sign, outside of one they may not.
-/

namespace PlannerTrials.Toml

/-! ## Blanks -/

/-- Leaves out spaces and tabs. -/
def skipSpaces (cs : List Char) : List Char := cs.dropWhile isSpace

/-- Leaves out blanks, line breaks and comments; the flag says that a comment has begun. -/
def skipGap : Bool → List Char → Option (List Char)
  | _, [] => some []
  | _, '\n' :: rest => skipGap false rest
  | _, '\r' :: '\n' :: rest => skipGap false rest
  | false, c :: rest =>
    if c = '#' then skipGap true rest
    else if isSpace c then skipGap false rest
    else if c = '\r' then none
    else some (c :: rest)
  | true, c :: rest => if isPlain c then skipGap true rest else none

/-- Leaves out the rest of a line that holds nothing but a comment. -/
def skipLine (cs : List Char) : Option (List Char) :=
  match skipSpaces cs with
  | '#' :: rest => skipGap true rest
  | [] | '\n' :: _ | '\r' :: '\n' :: _ => skipGap false (skipSpaces cs)
  | _ => none

/-! ## Keys -/

/-- How many levels arrays and inline tables may nest, and how many parts a key may have. -/
def deepest : Nat := 80

/-- Whether a character may stand in a key without marks. -/
def isKeyChar (c : Char) : Bool := c.isAlphanum || c = '-' || c = '_'

/-- Reads one part of a key, bare or as a string on one line. -/
def readKeyPart : List Char → Option (String × List Char)
  | '"' :: '"' :: '"' :: _ | '\'' :: '\'' :: '\'' :: _ => none
  | cs =>
    match readString? cs with
    | some found => found.map fun (text, rest) => (String.ofList text, rest)
    | none =>
      match cs.takeWhile isKeyChar with
      | [] => none
      | part => some (String.ofList part, cs.dropWhile isKeyChar)

/-- Reads the parts of a key with the dots between them, and the blanks around and after it. -/
def readKeyParts (cs : List Char) : Option (List String × List Char) :=
  match readKeyPart (skipSpaces cs) with
  | none => none
  | some (part, rest) =>
    match skipSpaces rest with
    | '.' :: rest =>
      if _h : rest.length < cs.length then
        (readKeyParts rest).map fun (parts, rest) => (part :: parts, rest)
      else none
    | rest => some ([part], rest)
termination_by cs.length

/-- Reads a key. -/
def readKey (cs : List Char) : Option (List String × List Char) :=
  (readKeyParts cs).bind fun (parts, rest) =>
    if parts.length ≤ deepest then some (parts, rest) else none

/-! ## Values -/

/-- Reads items up to a closing mark, which may follow a comma. -/
def readItems {α : Type} (close : Char) (item : List Char → Option (α × List Char))
    (cs : List Char) : Option (List α × List Char) :=
  match skipGap false cs with
  | none => none
  | some cs' =>
    if cs'.head? = some close then some ([], cs'.tail)
    else
      match item cs' with
      | none => none
      | some (a, rest) =>
        match skipGap false rest with
        | some (c :: rest) =>
          if c = close then some ([a], rest)
          else if c = ',' then
            if _h : rest.length < cs.length then
              (readItems close item rest).map fun (as, rest) => (a :: as, rest)
            else none
          else none
        | _ => none
termination_by cs.length

/-- Reads a key, an equals sign and what a reader of values finds after it; `gap` leaves out what may
stand around the equals sign. -/
def readPair (gap : List Char → Option (List Char))
    (value : List Char → Option (Value × List Char)) (cs : List Char) :
    Option ((List String × Value) × List Char) :=
  match readKey cs with
  | none => none
  | some (key, rest) =>
    match gap rest with
    | some ('=' :: rest) =>
      ((gap rest).bind value).map fun (v, rest) => ((key, v), rest)
    | _ => none

/-- The table that pairs of dotted keys and values form. -/
def tableOfPairs (pairs : List (List String × Value)) : Option Value :=
  (pairs.foldlM (fun entries (key, v) => Entries.assign v key entries) []).map fun entries =>
    .table (Node.toTable entries)

/-- Reads a value; the number says how many levels may still be opened. -/
def readValue : Nat → List Char → Option (Value × List Char)
  | levels, cs =>
    match readString? cs with
    | some found => found.map fun (text, rest) => (.string (String.ofList text), rest)
    | none =>
      match levels, cs with
      | 0, '[' :: _ | 0, '{' :: _ => none
      | levels + 1, '[' :: rest =>
        (readItems ']' (readValue levels) rest).map fun (items, rest) => (.array items, rest)
      | levels + 1, '{' :: rest =>
        match readItems '}' (readPair (skipGap false) (readValue levels)) rest with
        | some (pairs, rest) => (tableOfPairs pairs).map fun table => (table, rest)
        | none => none
      | _, cs =>
        let (word, rest) := takeWord cs
        (Value.ofWord? word).map fun v => (v, rest)

/-! ## Statements -/

/-- A statement of a document. -/
inductive Statement where
  /-- A header in single brackets, or in double ones if it is an item of an array. -/
  | header (item : Bool) (path : List String)
  /-- A dotted key with its value. -/
  | pair (key : List String) (value : Value)

/-- Reads a statement. -/
def readStatement : List Char → Option (Statement × List Char)
  | '[' :: '[' :: rest =>
    match readKey rest with
    | some (path, ']' :: ']' :: rest) => some (.header true path, rest)
    | _ => none
  | '[' :: rest =>
    match readKey rest with
    | some (path, ']' :: rest) => some (.header false path, rest)
    | _ => none
  | cs =>
    (readPair (fun cs => some (skipSpaces cs)) (readValue deepest) cs).map fun ((key, v), rest) =>
      (.pair key v, rest)

/-- Reads all statements. -/
def readStatements (cs : List Char) : Option (List Statement) :=
  match skipGap false cs with
  | none => none
  | some [] => some []
  | some cs' =>
    match readStatement cs' with
    | none => none
    | some (statement, rest) =>
      match skipLine rest with
      | none => none
      | some rest =>
        if _h : rest.length < cs.length then (readStatements rest).map (statement :: ·) else none
termination_by cs.length

/-- A document as far as it has been carried out: its tables, and the path of the open one. -/
structure Progress where
  entries : Entries := []
  path : List String := []

/-- Carries out one statement. -/
def Progress.step (progress : Progress) : Statement → Option Progress
  | .pair key v =>
    (progress.entries.within (Entries.assign v key) progress.path).map fun entries =>
      { progress with entries }
  | .header item path =>
    match path.getLast? with
    | none => none
    | some key =>
      let change := if item then Entries.appendTable key else Entries.openTable key
      (progress.entries.within change path.dropLast).map fun entries => { entries, path }

/-- The top table of a document; a mark of byte order before it does not count. -/
def read (text : String) : Option Table :=
  let cs :=
    match text.toList with
    | '\ufeff' :: rest => rest
    | cs => cs
  match readStatements cs with
  | none => none
  | some statements =>
    (statements.foldlM Progress.step {}).map fun progress => Node.toTable progress.entries

end PlannerTrials.Toml
