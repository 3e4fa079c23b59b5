import PlannerTrials.Host.Ordered.Basic
import PlannerTrials.Host.Ordered.Fault

/-!
# Numbers, names and escapes of ordered patterns

Groups are meant by numbers, which may count from the place at which they stand, or by names.  A backslash
gives a letter a meaning and takes it from a sign: what follows it stands for a character, refers to a group,
or is a letter whose meaning depends on where it stands.
-/

namespace PlannerTrials.Host

namespace Ordered

/-! ## Numbers and names -/

/-- The highest number of a group. -/
def groupLimit : Nat := 65535

/-- The highest number of repetitions. -/
def repeatLimit : Nat := 65535

/-- The longest name of a group. -/
def nameLimit : Nat := 32

/-- The value of the digits at the start of a text if there are any, and what follows them. -/
def readDigits (limit : Nat) (fault : Fault) (text : List Char) :
    Except Fault (Option Nat × List Char) :=
  let digits := text.takeWhile Number.isDigit
  let value := Number.digitsValue 0 digits
  if digits = [] then .ok (none, text)
  else if limit < value then .error fault
  else .ok (some value, text.drop digits.length)

/-- The number of a group at the start of a text, if there is one.  With a sign it counts from the last of
the groups that have been opened. -/
def readNumber (opened : Nat) (text : List Char) : Except Fault (Option Nat × List Char) := do
  match text with
  | '+' :: rest =>
    match ← readDigits (groupLimit - opened) .numberTooBig rest with
    | (none, _) => return (none, text)
    | (some 0, _) => throw .relativeZero
    | (some n, rest) => return (some (opened + n), rest)
  | '-' :: rest =>
    match ← readDigits groupLimit .numberTooBig rest with
    | (none, _) => return (none, text)
    | (some 0, _) => throw .relativeZero
    | (some n, rest) => if opened < n then throw .noSuchGroup else return (some (opened + 1 - n), rest)
  | _ => readDigits groupLimit .numberTooBig text

/-- How often something is repeated, after a brace, if this is what the brace says. -/
def readCounts (text : List Char) : Except Fault (Option ((Nat × Option Nat) × List Char)) :=
  let low := text.takeWhile Number.isDigit
  let counts (least : Nat) (most : Option Nat) (rest : List Char) :
      Except Fault (Option ((Nat × Option Nat) × List Char)) :=
    if repeatLimit < least ∨ repeatLimit < most.getD 0 then .error .countTooBig
    else if most.getD least < least then .error .countOrder
    else .ok (some ((least, most), rest))
  let least := Number.digitsValue 0 low
  if low = [] then .ok none
  else
    match text.drop low.length with
    | '\x7d' :: rest => counts least (some least) rest
    | ',' :: '\x7d' :: rest => counts least none rest
    | ',' :: rest =>
      let high := rest.takeWhile Number.isDigit
      match rest.drop high.length with
      | '\x7d' :: rest => if high = [] then .ok none else counts least (some (Number.digitsValue 0 high)) rest
      | _ => .ok none
    | _ => .ok none

/-- Whether a character may stand in a name. -/
def isNameChar (unicode : Bool) (c : Char) : Bool :=
  isNarrowWordChar c ||
    (unicode && !isNarrow c && (CharClass.holdsWide .alpha c || Text.covers Text.digitRanges c.toNat))

/-- The name of a group at the start of a text, up to the sign that ends it. -/
def readName (unicode : Bool) (ending : Char) (text : List Char) : Except Fault (List Char × List Char) := do
  let name := text.takeWhile (isNameChar unicode)
  let size := (name.flatMap (Locale.bytesOf unicode)).length
  match text.head? with
  | none => throw .noName
  | some c =>
    if Number.isDigit c || (unicode && Text.covers Text.digitRanges c.toNat) then throw .nameStartsWithDigit
    if nameLimit < size then throw .nameTooLong
    if name = [] then throw .noName
    match text.drop name.length with
    | d :: rest => if d = ending then return (name, rest) else throw .openName
    | [] => throw .openName

/-! ## Escapes -/

/-- What an escape means. -/
inductive Escape where
  | letter (c : Char)
  /-- What the group with a number has matched. -/
  | back (number : Nat)
  /-- A letter whose meaning depends on where it stands. -/
  | sign (c : Char)
  deriving DecidableEq, Repr

/-- The character with a number, which must be one. -/
def readCode (unicode : Bool) (code : Nat) : Except Fault Char :=
  if (if unicode then 0x10ffff else 0xff) < code then .error .codeTooBig
  else if code.isValidChar then .ok (Char.ofNat code)
  else .error .surrogate

/-- Reads the digits of a character after a brace, up to the other brace. -/
def readBraced (unicode : Bool) (base : Nat) (bad : Fault) (text : List Char) :
    Except Fault (Char × List Char) := do
  let digits := text.takeWhile fun c => (Number.digitValue? base c).isSome
  let code := digits.foldl (fun n c => n * base + (Number.digitValue? base c).getD 0) 0
  match text, text.drop digits.length with
  | [], _ => throw .noDigits
  | '\x7d' :: _, _ => throw .noDigits
  | _, rest =>
    if (if unicode then 0x10ffff else 0xff) < code then throw .codeTooBig
    match rest with
    | '\x7d' :: rest => return (← readCode unicode code, rest)
    | _ => throw bad

/-- The letters for characters. -/
def letterEscapes : List (Char × Char) :=
  [('a', '\x07'), ('e', '\x1b'), ('f', '\x0c'), ('n', '\n'), ('r', '\r'), ('t', '\t')]

/-- The letters whose meaning depends on where they stand. -/
def signEscapes : List Char := "ABCDEGHKNPQRSVWXZbdhkpsvwz".toList

/-- Reads at most so many octal digits after a number. -/
def readOctal : (count : Nat) → Nat → List Char → Nat × List Char
  | count + 1, n, c :: rest =>
    match Number.digitValue? 8 c with
    | some d => readOctal count (n * 8 + d) rest
    | none => (n, c :: rest)
  | _, n, text => (n, text)

/-- Reads a character that is written by its octal digits. -/
def readOctalCode (unicode : Bool) (text : List Char) : Except Fault (Escape × List Char) := do
  let (code, rest) := readOctal 3 0 text
  if !unicode && 0xff < code then throw .octalTooBig
  return (.letter (Char.ofNat code), rest)

/-- Reads what stands after a backslash and a digit. -/
def readDigitEscape (unicode inSet : Bool) (opened : Nat) (text : List Char) :
    Except Fault (Escape × List Char) := do
  let digits := text.takeWhile Number.isDigit
  let number := Number.digitsValue 0 digits
  let isHigh := text.head? == some '8' || text.head? == some '9'
  if !inSet && text.head? != some '0' && digits.length < 10 &&
      (number < 10 || isHigh || number ≤ opened) then
    if groupLimit < number then throw .numberTooBig
    return (.back number, text.drop digits.length)
  else if isHigh then return (.letter (text.headD '8'), text.drop 1)
  else readOctalCode unicode text

/-- Reads the number of a group after a backslash and the letter for groups; without one, it is the letter
for names or for calls. -/
def readGroupEscape (opened : Nat) (text : List Char) : Except Fault (Escape × List Char) := do
  let back (n : Nat) (rest : List Char) : Except Fault (Escape × List Char) :=
    if n = 0 then .error .noSuchGroup else .ok (.back n, rest)
  match text with
  | '<' :: _ => return (.sign 'g', text)
  | '\'' :: _ => return (.sign 'g', text)
  | '\x7b' :: inner =>
    match ← readNumber opened inner with
    | (none, _) => return (.sign 'k', text)
    | (some n, '\x7d' :: rest) => back n rest
    | _ => throw .badCall
  | _ =>
    match ← readNumber opened text with
    | (none, _) => throw .badCall
    | (some n, rest) => back n rest

/-- Reads what follows a backslash, in a set or after so many groups have been opened. -/
def readEscape (unicode inSet : Bool) (opened : Nat) (text : List Char) :
    Except Fault (Escape × List Char) := do
  match text with
  | [] => throw .bareBackslash
  | c :: rest =>
    if !c.isAlphanum then return (.letter c, rest)
    match letterEscapes.lookup c with
    | some d => return (.letter d, rest)
    | none =>
      if Number.isDigit c then readDigitEscape unicode inSet opened text
      else if c = 'N' then
        match rest with
        | '\x7b' :: 'U' :: '+' :: digits =>
          if !unicode then throw .noUnicode
          let (d, rest) ← readBraced unicode 16 .badHex digits
          return (.letter d, rest)
        | '\x7b' :: counts =>
          match ← readCounts counts with
          | some _ => return (.sign c, rest)
          | none => throw .foreignEscape
        | _ => return (.sign c, rest)
      else if signEscapes.contains c then return (.sign c, rest)
      else if "FLUlu".toList.contains c then throw .foreignEscape
      else if c = 'g' then
        if inSet then return (.letter c, rest) else readGroupEscape opened rest
      else if c = 'o' then
        match rest with
        | '\x7b' :: digits =>
          let (d, rest) ← readBraced unicode 8 .badOctal digits
          return (.letter d, rest)
        | _ => throw .noOctalBrace
      else if c = 'x' then
        match rest with
        | '\x7b' :: digits =>
          let (d, rest) ← readBraced unicode 16 .badHex digits
          return (.letter d, rest)
        | _ =>
          let digits := (rest.take 2).takeWhile fun d => (Number.digitValue? 16 d).isSome
          let code := digits.foldl (fun n d => n * 16 + (Number.digitValue? 16 d).getD 0) 0
          return (.letter (Char.ofNat code), rest.drop digits.length)
      else if c = 'c' then
        match rest with
        | [] => throw .bareControl
        | d :: rest =>
          let n := (if d.isLower then d.toUpper else d).toNat
          if n < 32 ∨ 126 < n then throw .badControl
          return (.letter (Char.ofNat (if n < 64 then n + 64 else n - 64)), rest)
      else throw .unknownEscape

end Ordered

end PlannerTrials.Host
