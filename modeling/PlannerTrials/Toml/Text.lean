import PlannerTrials.Number.Numeral

/-!
# Strings of a TOML document

A string stands between quotation marks or between apostrophes, single or threefold.  Between
quotation marks a backslash starts an escape; between apostrophes nothing does.  Threefold marks let
a string go over several lines: a line break right after the opening is left out, all others stay as
they are written, and up to two marks may stand directly before the closing ones.

All readers take the characters after the opening mark and return the string with what follows
the closing one, or nothing where the document is not well formed.
-/

namespace PlannerTrials.Toml

/-- Whether a character may stand in a string or a comment as itself: no control but the tab. -/
def isPlain (c : Char) : Bool := c = '\t' ∨ (32 ≤ c.toNat ∧ c.toNat ≠ 127)

/-- Whether a character is a space or a tab. -/
def isSpace (c : Char) : Bool := c = ' ' ∨ c = '\t'

/-- Where the reader of a string with escapes stands. -/
inductive Phase where
  /-- Between two characters. -/
  | plain
  /-- After a backslash. -/
  | escape
  /-- Among the digits of a code point, some of them still to come. -/
  | digits (left value : Nat)
  /-- Among the blanks that a backslash at the end of a line removes. -/
  | fold (broken : Bool)
  deriving DecidableEq

/-- The character of a one-letter escape. -/
def escapeLetter? : Char → Option Char
  | 'b' => some '\x08'
  | 't' => some '\t'
  | 'n' => some '\n'
  | 'f' => some '\x0c'
  | 'r' => some '\r'
  | 'e' => some '\x1b'
  | '"' => some '"'
  | '\\' => some '\\'
  | _ => none

/-- How many digits follow the letter of a code-point escape. -/
def escapeDigits? : Char → Option Nat
  | 'x' => some 2
  | 'u' => some 4
  | 'U' => some 8
  | _ => none

/-- The character with a code point, if there is one. -/
def scalar? (n : Nat) : Option Char :=
  if n.isValidChar then some (Char.ofNat n) else none

/-- Puts a character before a string that has been read. -/
def prepend (c : Char) : Option (List Char × List Char) → Option (List Char × List Char)
  | some (text, rest) => some (c :: text, rest)
  | none => none

/-- Reads a string with escapes; `multi` says that its marks are threefold. -/
def readEscaped (multi : Bool) : Phase → List Char → Option (List Char × List Char)
  | .plain, '"' :: '"' :: '"' :: '"' :: '"' :: rest =>
    if multi then some (['"', '"'], rest)
    else some ([], '"' :: '"' :: '"' :: '"' :: rest)
  | .plain, '"' :: '"' :: '"' :: '"' :: rest =>
    if multi then some (['"'], rest) else some ([], '"' :: '"' :: '"' :: rest)
  | .plain, '"' :: '"' :: '"' :: rest =>
    if multi then some ([], rest) else some ([], '"' :: '"' :: rest)
  | .plain, '"' :: rest =>
    if multi then prepend '"' (readEscaped multi .plain rest) else some ([], rest)
  | .plain, '\\' :: rest => readEscaped multi .escape rest
  | .plain, '\n' :: rest =>
    if multi then prepend '\n' (readEscaped multi .plain rest) else none
  | .plain, '\r' :: '\n' :: rest =>
    if multi then prepend '\r' (prepend '\n' (readEscaped multi .plain rest)) else none
  | .plain, c :: rest => if isPlain c then prepend c (readEscaped multi .plain rest) else none
  | .escape, c :: rest =>
    match escapeLetter? c, escapeDigits? c with
    | some e, _ => prepend e (readEscaped multi .plain rest)
    | none, some n => readEscaped multi (.digits n 0) rest
    | none, none =>
      if multi && (isSpace c || c = '\n' || c = '\r') then readEscaped multi (.fold false) (c :: rest)
      else none
  | .digits (left + 1) value, c :: rest =>
    match Number.digitValue? 16 c with
    | none => none
    | some d =>
      let value := value * 16 + d
      if left = 0 then
        match scalar? value with
        | some c => prepend c (readEscaped multi .plain rest)
        | none => none
      else readEscaped multi (.digits left value) rest
  | .fold _, '\n' :: rest => readEscaped multi (.fold true) rest
  | .fold _, '\r' :: '\n' :: rest => readEscaped multi (.fold true) rest
  | .fold broken, c :: rest =>
    if isSpace c then readEscaped multi (.fold broken) rest
    else if broken then readEscaped multi .plain (c :: rest)
    else none
  | _, _ => none
termination_by phase cs =>
  (cs.length, match phase with | .escape => 2 | .fold _ => 1 | _ => 0)

/-- Reads a string without escapes between single apostrophes. -/
def readLiteral : List Char → Option (List Char × List Char)
  | '\'' :: rest => some ([], rest)
  | c :: rest => if isPlain c then prepend c (readLiteral rest) else none
  | [] => none

/-- Reads a string without escapes between threefold apostrophes. -/
def readLiteralLines : List Char → Option (List Char × List Char)
  | '\'' :: '\'' :: '\'' :: '\'' :: '\'' :: rest => some (['\'', '\''], rest)
  | '\'' :: '\'' :: '\'' :: '\'' :: rest => some (['\''], rest)
  | '\'' :: '\'' :: '\'' :: rest => some ([], rest)
  | '\n' :: rest => prepend '\n' (readLiteralLines rest)
  | '\r' :: '\n' :: rest => prepend '\r' (prepend '\n' (readLiteralLines rest))
  | c :: rest => if isPlain c then prepend c (readLiteralLines rest) else none
  | [] => none

/-- What follows a line break at the very start. -/
def dropLineBreak : List Char → List Char
  | '\n' :: rest => rest
  | '\r' :: '\n' :: rest => rest
  | cs => cs

/-- Reads a string with its opening mark, if one starts here. -/
def readString? : List Char → Option (Option (List Char × List Char))
  | '"' :: '"' :: '"' :: rest => some (readEscaped true .plain (dropLineBreak rest))
  | '"' :: rest => some (readEscaped false .plain rest)
  | '\'' :: '\'' :: '\'' :: rest => some (readLiteralLines (dropLineBreak rest))
  | '\'' :: rest => some (readLiteral rest)
  | _ => none

end PlannerTrials.Toml
