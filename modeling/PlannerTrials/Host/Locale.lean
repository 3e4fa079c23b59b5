import PlannerTrials.Host.Raw
import PlannerTrials.Text.Quoted

/-!
# Characters of a host

The variables of a program say how it reads bytes as characters: each byte is one, or the bytes are
UTF-8.  A program asks for a language for each of several matters, and if a host does not have one of
the languages it uses none of them.

In UTF-8 a text of bytes may hold bytes that are no part of a character.  They are kept as characters
that no text holds, so that nothing is lost: `characters` and `Raw` texts are two ways to see the same
bytes.
-/

namespace PlannerTrials.Host

namespace Locale

/-- The matters for which a language may be asked for. -/
def matters : List String :=
  ["LC_CTYPE", "LC_NUMERIC", "LC_TIME", "LC_COLLATE", "LC_MONETARY", "LC_MESSAGES", "LC_PAPER",
    "LC_NAME", "LC_ADDRESS", "LC_TELEPHONE", "LC_MEASUREMENT", "LC_IDENTIFICATION"]

/-- What the variables ask for in one matter. -/
def asked (environment : List (Raw × Raw)) (matter : String) : Raw :=
  let given := ["LC_ALL", matter, "LANG"].map fun name => (environment.lookup name.toList).getD []
  (given.find? (· ≠ [])).getD ['C']

/-- Whether a name of a language asks for UTF-8, if the host has the language. -/
def encoding? (name : Raw) : Option Bool :=
  if name = ['C'] ∨ name = "POSIX".toList then some false
  else
    match name with
    | 'C' :: '.' :: encoding =>
      let letters := (encoding.filter Char.isAlphanum).map Char.toLower
      if letters = "utf8".toList then some true else none
    | _ => none

/-- Whether a program reads its bytes as UTF-8. -/
def isUnicode (environment : List (Raw × Raw)) : Bool :=
  (matters.all fun matter => (encoding? (asked environment matter)).isSome) &&
    (encoding? (asked environment "LC_CTYPE")).getD false

/-! ## Characters -/

/-- The first of the characters that stand for bytes that are no part of a character. -/
def strayStart : Nat := 0x10ff00

/-- The character that stands for a byte that is no part of a character. -/
def stray (c : Char) : Char := Char.ofNat (strayStart + c.toNat)

/-- Whether a character stands for a byte that is no part of a character. -/
def isStray (c : Char) : Bool := strayStart + 0x80 ≤ c.toNat

/-- The characters that bytes are in UTF-8. -/
def decode : (fuel : Nat) → Raw → List Char
  | 0, _ => []
  | _, [] => []
  | fuel + 1, c :: cs =>
    if c.toNat < 0x80 then c :: decode fuel cs
    else
      match Utf8.start (UInt8.ofNat c.toNat) (Raw.toBytes (cs.take 3)) with
      | .char d more => d :: decode fuel (cs.drop more)
      | .broken _ => stray c :: decode fuel cs

/-- The characters that bytes are. -/
def characters (unicode : Bool) (cs : Raw) : List Char :=
  if unicode then decode (cs.length + 1) cs else cs

/-- The bytes of a character. -/
def bytesOf (unicode : Bool) (c : Char) : Raw :=
  if !unicode || c.toNat < 0x80 then [c]
  else if isStray c then [Char.ofNat (c.toNat - strayStart)]
  else Raw.ofString (String.ofList [c])

/-- Characters without a glyph of their own that are printed all the same: spaces, format characters, and
those whose meaning is a private matter. -/
def printedRanges : List (Nat × Nat) := [
  (0xa0, 0xa0), (0xad, 0xad), (0x34f, 0x34f), (0x600, 0x605), (0x61c, 0x61c), (0x6dd, 0x6dd),
  (0x70f, 0x70f), (0x890, 0x891), (0x8e2, 0x8e2), (0x115f, 0x1160), (0x1680, 0x1680),
  (0x17b4, 0x17b5), (0x180b, 0x180f), (0x2000, 0x200f), (0x202a, 0x202f), (0x205f, 0x2064),
  (0x2066, 0x206f), (0x3000, 0x3000), (0x3164, 0x3164), (0xe000, 0xf8ff), (0xfe00, 0xfe0f),
  (0xfeff, 0xfeff), (0xffa0, 0xffa0), (0xfff9, 0xfffb), (0x110bd, 0x110bd), (0x110cd, 0x110cd),
  (0x13430, 0x1343f), (0x1bca0, 0x1bca3), (0x1d173, 0x1d17a), (0xe0001, 0xe0001),
  (0xe0020, 0xe007f), (0xe0100, 0xe01ef), (0xf0000, 0xffffd), (0x100000, 0x10feff)]

/-- Whether a character is printed. -/
def isPrintable (unicode : Bool) (c : Char) : Bool :=
  if c.toNat < 0x80 then ' ' ≤ c && c ≠ '\x7f'
  else unicode && (Text.covers printedRanges c.toNat || !Text.covers Text.glyphless c.toNat)

end Locale

/-! ## Quoting

Tools quote texts in two ways.  In sentences a text stands between quotation marks.  Names of files are
written so that a shell reads them as one word, mostly without any marks if the name needs none.
-/

namespace Locale

/-- The letters for controls. -/
def controlLetters : List (Char × Char) :=
  [('\x07', 'a'), ('\x08', 'b'), ('\t', 't'), ('\n', 'n'), ('\x0b', 'v'), ('\x0c', 'f'), ('\x0d', 'r')]

/-- A byte by its three octal digits. -/
def octal (c : Char) : Raw :=
  '\\' :: ([c.toNat / 64, c.toNat / 8 % 8, c.toNat % 8].map Number.digitChar)

/-- The escapes for a character that cannot be printed, if it is one. -/
def escape? (unicode : Bool) (c : Char) : Option Raw :=
  match controlLetters.lookup c with
  | some letter => some ['\\', letter]
  | none =>
    if isPrintable unicode c then none else some ((bytesOf unicode c).flatMap octal)

/-- The quotation marks. -/
def marks (unicode : Bool) : Char × Char :=
  if unicode then (Char.ofNat 0x2018, Char.ofNat 0x2019) else ('\'', '\'')

/-- A text in a sentence. -/
def quoted (unicode : Bool) (text : Raw) : Raw :=
  let (opening, closing) := marks unicode
  let shown := (characters unicode text).flatMap fun c =>
    if c = '\\' ∨ c = closing then '\\' :: bytesOf unicode c
    else (escape? unicode c).getD (bytesOf unicode c)
  bytesOf unicode opening ++ shown ++ bytesOf unicode closing

/-- The characters that have a meaning for a shell wherever they stand. -/
def shellSigns : List Char := " !\"$&()*;<=>[^\x60|?\\'".toList

/-- Whether a character has a meaning for a shell that reads it in a name. -/
def isShellSign (name : List Char) (first : Bool) (c : Char) : Bool :=
  shellSigns.contains c || (first && (c = '#' || c = '~')) ||
    ((c = '\x7b' || c = '\x7d') && name.length = 1)

/-- Whether a character stands for itself between quotation marks, too. -/
def isHarmless (name : List Char) (first : Bool) (c : Char) : Bool :=
  if "!\"$&()*;<=>[^\x60|?\\".toList.contains c then false
  else if c = '#' ∨ c = '~' then first
  else if c = '\x7b' ∨ c = '\x7d' then name.length = 1
  else true

/-- A name between apostrophes, with escapes in parts of their own; `escaping` says that such a part has
begun. -/
def apostrophized (unicode : Bool) : (escaping : Bool) → List Char → Raw
  | _, [] => []
  | escaping, c :: cs =>
    match escape? unicode c with
    | some text =>
      (if escaping then [] else "'$'".toList) ++ text ++ apostrophized unicode true cs
    | none =>
      if c = '\'' then "'\\''".toList ++ apostrophized unicode false cs
      else
        (if escaping then "''".toList else []) ++ bytesOf unicode c ++ apostrophized unicode false cs

/-- A name as one word of a shell, between marks always or only if the name needs them, which it does
also with one of some signs. -/
def asWord (unicode always : Bool) (signs : List Char) (text : Raw) : Raw :=
  let name := characters unicode text
  let placed := name.zipIdx.map fun (c, n) => (n == 0, c)
  let needed := name = [] || placed.any fun (first, c) =>
    isShellSign name first c || signs.contains c || (escape? unicode c).isSome
  if !always && !needed then text
  else if name.contains '\'' && placed.all fun (first, c) =>
      isHarmless name first c && (escape? unicode c).isNone then
    '"' :: text ++ ['"']
  else '\'' :: apostrophized unicode false name ++ ['\'']

end Locale

end PlannerTrials.Host
