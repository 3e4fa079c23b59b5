import PlannerTrials.Number.Notation
import PlannerTrials.Text.Quoted

/-!
# JSON documents

A document is written in one of two ways.  `render` gives every entry and every item a line of its own,
indented by two spaces for each level, and writes an empty list on one line; `compact` puts everything
on one line without spaces.  A double that is not finite has no form in JSON and is written as `null`.
-/

namespace PlannerTrials

/-- A JSON document. -/
inductive Json where
  | null
  /-- A number, as it is written. -/
  | number (text : List Char)
  | string (text : String)
  | array (items : List Json)
  | object (entries : List (String × Json))

namespace Json

/-- A character inside a JSON string. -/
def escaped (c : Char) : List Char :=
  match c with
  | '"' => ['\\', '"']
  | '\\' => ['\\', '\\']
  | '\x08' => ['\\', 'b']
  | '\x0c' => ['\\', 'f']
  | '\n' => ['\\', 'n']
  | '\r' => ['\\', 'r']
  | '\t' => ['\\', 't']
  | c =>
    if c.toNat < 0x20 then
      let ds := Text.hexDigits c.toNat
      '\\' :: 'u' :: List.replicate (4 - ds.length) '0' ++ ds
    else [c]

/-- A JSON string with its quotation marks. -/
def quoted (s : String) : List Char := '"' :: s.toList.flatMap escaped ++ ['"']

/-- A line break with the indentation of a level. -/
def lineBreak (level : Nat) : List Char := '\n' :: List.replicate (2 * level) ' '

/-- Lines between brackets; there are none between the brackets of an empty list. -/
def between (opening closing : Char) (level : Nat) (lines : List (List Char)) : List Char :=
  if lines = [] then [opening, closing]
  else
    opening :: [','].intercalate (lines.map (lineBreak (level + 1) ++ ·)) ++
      lineBreak level ++ [closing]

mutual

/-- The text of a document at a level. -/
def render (level : Nat) : Json → List Char
  | .null => "null".toList
  | .number text => text
  | .string s => quoted s
  | .array items => between '[' ']' level (renderItems (level + 1) items)
  | .object entries => between '\x7b' '\x7d' level (renderEntries (level + 1) entries)

/-- The texts of items at a level. -/
def renderItems (level : Nat) : List Json → List (List Char)
  | [] => []
  | item :: rest => render level item :: renderItems level rest

/-- The texts of entries at a level. -/
def renderEntries (level : Nat) : List (String × Json) → List (List Char)
  | [] => []
  | (key, value) :: rest =>
    (quoted key ++ ':' :: ' ' :: render level value) :: renderEntries level rest

end

mutual

/-- The text of a document on one line. -/
def compact : Json → List Char
  | .null => "null".toList
  | .number text => text
  | .string s => quoted s
  | .array items => '[' :: [','].intercalate (compactItems items) ++ [']']
  | .object entries => '\x7b' :: [','].intercalate (compactEntries entries) ++ ['\x7d']

/-- The texts of items on one line. -/
def compactItems : List Json → List (List Char)
  | [] => []
  | item :: rest => compact item :: compactItems rest

/-- The texts of entries on one line. -/
def compactEntries : List (String × Json) → List (List Char)
  | [] => []
  | (key, value) :: rest => (quoted key ++ ':' :: compact value) :: compactEntries rest

end

/-- How numbers are written: like times in tables, but an exponent always has a sign. -/
def numberLayout : Number.Layout := ⟨-5, 16, ['+']⟩

/-- A double as a document. -/
def ofDouble : Double → Json
  | .finite negative quanta canonical =>
    .number ((Double.finite negative quanta canonical).text numberLayout)
  | _ => .null

/-- A natural number as a document. -/
def ofNat (n : Nat) : Json := .number (Number.digits n)

end Json

end PlannerTrials
