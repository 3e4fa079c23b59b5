import PlannerTrials.Number.Decimal
import PlannerTrials.Toml.Value

/-!
# Numbers, dates and truth values of a TOML document

These values are written without marks around them.  The reader takes the longest run of characters
that can occur in one of them and asks which kind it is; a date may be followed by one space and a
time.
-/

namespace PlannerTrials.Toml

open Number

/-- Whether a character can occur in a value without marks. -/
def isWordChar (c : Char) : Bool :=
  c.isAlphanum || c = '+' || c = '-' || c = '_' || c = '.' || c = ':'

/-- The digits of a run in which each underscore stands between two digits. -/
def ungroup (digit : Char → Bool) : List Char → Option (List Char)
  | [] => none
  | [c] => if digit c then some [c] else none
  | c :: '_' :: d :: rest =>
    if digit c then (ungroup digit (d :: rest)).map (c :: ·) else none
  | c :: rest => if digit c then (ungroup digit rest).map (c :: ·) else none

/-- A run of digits in a radix, with underscores. -/
def readGrouped? (radix : Nat) (cs : List Char) : Option (List Char) :=
  ungroup (fun c => (digitValue? radix c).isSome) cs

/-- The value of digits in a radix. -/
def radixValue (radix : Nat) (cs : List Char) : Nat :=
  cs.foldl (fun n c => n * radix + (digitValue? radix c).getD 0) 0

/-- A run of decimal digits without a zero before others. -/
def readWhole? (cs : List Char) : Option (List Char) :=
  match readGrouped? 10 cs with
  | some ('0' :: _ :: _) => none
  | found => found

/-- A sign and the rest. -/
def splitSign : List Char → Bool × List Char
  | '+' :: rest => (false, rest)
  | '-' :: rest => (true, rest)
  | cs => (false, cs)

/-- An integer. -/
def readInteger? : List Char → Option Int
  | '0' :: 'x' :: rest => (readGrouped? 16 rest).map fun ds => (radixValue 16 ds : Nat)
  | '0' :: 'o' :: rest => (readGrouped? 8 rest).map fun ds => (radixValue 8 ds : Nat)
  | '0' :: 'b' :: rest => (readGrouped? 2 rest).map fun ds => (radixValue 2 ds : Nat)
  | cs =>
    let (negative, rest) := splitSign cs
    (readWhole? rest).map fun ds =>
      let n : Int := (digitsValue 0 ds : Nat)
      if negative then -n else n

/-- An exponent after its letter. -/
def readPower? (cs : List Char) : Option (List Char) :=
  let (negative, rest) := splitSign cs
  (readGrouped? 10 rest).map fun ds => if negative then '-' :: ds else ds

/-- A number with a fraction or an exponent, as the text of a double. -/
def floatText? (cs : List Char) : Option (List Char) :=
  let isMark (c : Char) : Bool := c = 'e' ∨ c = 'E'
  let mantissa := cs.takeWhile fun c => !isMark c
  let power? : Option (List Char) :=
    match cs.dropWhile fun c => !isMark c with
    | [] => some []
    | _ :: rest => (readPower? rest).map ('e' :: ·)
  match mantissa.dropWhile (· ≠ '.'), power? with
  | [], some (e :: power) => (readWhole? mantissa).map (· ++ e :: power)
  | '.' :: fraction, some power =>
    match readWhole? (mantissa.takeWhile (· ≠ '.')), readGrouped? 10 fraction with
    | some whole, some fraction => some (whole ++ '.' :: fraction ++ power)
    | _, _ => none
  | _, _ => none

/-- Whether a run of characters is a number with a fraction, and then whether it is in range. -/
def readFloat? (cs : List Char) : Option Bool :=
  let (_, rest) := splitSign cs
  if rest = "inf".toList ∨ rest = "nan".toList then some true
  else
    (floatText? rest).map fun text =>
      match Double.read text with
      | .ok (.finite ..) => true
      | _ => false

/-! ## Dates -/

/-- A number of exactly `n` digits. -/
def readFixed? (n : Nat) (cs : List Char) : Option (Nat × List Char) :=
  let ds := cs.take n
  if ds.length = n ∧ ds.all isDigit then some (digitsValue 0 ds, cs.drop n) else none

/-- The days of a month. -/
def daysIn (year month : Nat) : Nat :=
  if month = 2 then
    if year % 4 = 0 ∧ (year % 100 ≠ 0 ∨ year % 400 = 0) then 29 else 28
  else if month = 4 ∨ month = 6 ∨ month = 9 ∨ month = 11 then 30
  else 31

/-- Reads a date and returns what follows it. -/
def readDate? (cs : List Char) : Option (List Char) := do
  let (year, cs) ← readFixed? 4 cs
  let '-' :: cs := cs | none
  let (month, cs) ← readFixed? 2 cs
  let '-' :: cs := cs | none
  let (day, cs) ← readFixed? 2 cs
  if 1 ≤ month ∧ month ≤ 12 ∧ 1 ≤ day ∧ day ≤ daysIn year month then some cs else none

/-- Reads a time and returns what follows it; seconds may be missing. -/
def readTime? (cs : List Char) : Option (List Char) := do
  let (hour, cs) ← readFixed? 2 cs
  let ':' :: cs := cs | none
  let (minute, cs) ← readFixed? 2 cs
  if 24 ≤ hour ∨ 60 ≤ minute then none
  else
    match cs with
    | ':' :: cs =>
      let (second, cs) ← readFixed? 2 cs
      if 60 < second then none
      else
        match cs with
        | '.' :: cs =>
          if cs.takeWhile isDigit = [] then none else some (cs.dropWhile isDigit)
        | cs => some cs
    | cs => some cs

/-- Whether a text is empty or the distance of a clock from universal time. -/
def isOffset : List Char → Bool
  | [] => true
  | ['Z'] | ['z'] => true
  | c :: rest =>
    (c = '+' || c = '-') &&
      match readFixed? 2 rest with
      | some (hour, ':' :: rest) =>
        match readFixed? 2 rest with
        | some (minute, []) => decide (hour < 24 ∧ minute < 60)
        | _ => false
      | _ => false

/-- Whether a text is a date, a time, or both. -/
def isMoment (cs : List Char) : Bool :=
  match readDate? cs with
  | some [] => true
  | some (c :: rest) =>
    (c = 'T' || c = 't' || c = ' ') &&
      match readTime? rest with
      | some offset => isOffset offset
      | none => false
  | none => readTime? cs == some []

/-- The value that a run of characters without marks stands for. -/
def Value.ofWord? (cs : List Char) : Option Value :=
  if cs = "true".toList then some (.boolean true)
  else if cs = "false".toList then some (.boolean false)
  else
    match readInteger? cs with
    | some n => some (.integer n)
    | none =>
      match readFloat? cs with
      | some inRange => some (.float inRange)
      | none => if isMoment cs then some .moment else none

/-- Takes the run of characters of a value without marks; one space may join a date and a time. -/
def takeWord (cs : List Char) : List Char × List Char :=
  let word := cs.takeWhile isWordChar
  match cs.dropWhile isWordChar with
  | ' ' :: d :: rest =>
    if readDate? word = some [] ∧ isDigit d then
      (word ++ ' ' :: (d :: rest).takeWhile isWordChar, (d :: rest).dropWhile isWordChar)
    else (word, ' ' :: d :: rest)
  | rest => (word, rest)

end PlannerTrials.Toml
