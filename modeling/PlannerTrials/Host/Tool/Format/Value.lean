import PlannerTrials.Host.Calculation
import PlannerTrials.Host.Locale
import PlannerTrials.Host.Tool.Basic
import PlannerTrials.Number.Decimal

/-!
# The values of a format's arguments

An argument of a format is a text, and a conversion reads a number from it: as much of the text as
belongs to a number counts, and what is left over is complained about.  The two programs that print
in a format differ in the words of their complaints, and these differences are the `Dialect`.
-/

namespace PlannerTrials.Host.Format

/-- How complaints are worded, and what is known. -/
structure Dialect where
  rich : Bool
  notNumeric : Raw → Raw
  notComplete : Raw → Raw
  outOfRange : Raw → Raw
  invalid : Raw → Raw
  /-- The exit code after an invalid conversion. -/
  invalidCode : Nat
  /-- A percent sign at the end has a complaint of its own. -/
  missing : Option Raw
  /-- Whether a text that stops before its end is printed with what is known of it. -/
  excess : Option (Raw → Raw)

/-- The `printf` of the shell. -/
def Dialect.shell : Dialect where
  rich := false
  notNumeric text := text ++ ": expected numeric value".toList
  notComplete text := text ++ ": not completely converted".toList
  outOfRange text := text ++ ": Numerical result out of range".toList
  invalid text := text ++ ": invalid directive".toList
  invalidCode := 2
  missing := some "missing format character".toList
  excess := none

/-- The `printf` that is a program. -/
def Dialect.program : Dialect where
  rich := true
  notNumeric text := Tool.quoted text ++ ": expected a numeric value".toList
  notComplete text := Tool.quoted text ++ ": value not completely converted".toList
  outOfRange text := Tool.quoted text ++ ": Numerical result out of range".toList
  invalid text := text ++ ": invalid conversion specification".toList
  invalidCode := 1
  missing := none
  excess := some fun text =>
    "warning: ignoring excess arguments, starting with ".toList ++ Tool.quoted text

/-- Whether a character may stand before a number. -/
def isBlank (c : Char) : Bool := c = ' ' || ('\t' ≤ c && c ≤ '\r')

/-- The number that an argument stands for, with what there is to complain about. -/
def integer (d : Dialect) (unsigned : Bool) (text : Raw) : Int × Option Raw :=
  match text with
  | [] => (0, none)
  | c :: cs =>
    if c = '"' ∨ c = '\'' then
      match cs with
      | e :: more =>
        (e.toNat, if more ≠ [] ∧ d.rich then
          some ("warning: ".toList ++ more ++
            ": character(s) following character constant have been ignored".toList) else none)
      | [] => (0, if d.rich then some (d.notNumeric text) else none)
    else
      let body := text.dropWhile isBlank
      let (negative, digits) : Bool × Raw := match body with
        | '-' :: rest => (true, rest)
        | '+' :: rest => (false, rest)
        | rest => (false, rest)
      match digits with
      | e :: _ =>
        if e.isDigit then
          let (n, rest) : Nat × Raw := match digits with
            | '0' :: x :: h :: rest =>
              if (x = 'x' ∨ x = 'X') ∧ Calculation.digitValue h < 16 then
                Calculation.readDigits 16 (h :: rest)
              else Calculation.readDigits 8 digits
            | '0' :: _ => Calculation.readDigits 8 digits
            | digits => Calculation.readDigits 10 digits
          let value : Int := if negative then -n else n
          let low : Int := if unsigned then 1 - Calculation.wordCount else Calculation.least
          let high : Int := if unsigned then Calculation.wordCount - 1 else Calculation.largest
          let clamped := if value < low then (if unsigned then high else low)
            else if high < value then high else value
          (clamped, if rest ≠ [] then some (d.notComplete text)
            else if value < low ∨ high < value then some (d.outOfRange text) else none)
        else (0, some (d.notNumeric text))
      | [] => (0, some (d.notNumeric text))

/-- A double without its sign, and whether it had to be moved into the range of the doubles. -/
structure Magnitude where
  value : Double
  isOut : Bool

namespace Magnitude

/-- The double nearest to `num / den` quanta.  A quotient is out of range beyond the last double, and
also where the quanta lie too far apart to keep it. -/
def ofQuanta (num den : Nat) : Magnitude :=
  let value := Double.ofQuanta false num den
  let isTiny := 4 * num < (Nat.pow 2 54 - 1) * den && num % den ≠ 0
  ⟨value, isTiny || match value with
    | .infinite _ => true
    | _ => false⟩

/-- A number that is so much larger or smaller than every double that only this is known of it. -/
def beyond (isLarge isZero : Bool) : Magnitude :=
  if isZero then ofQuanta 0 1 else if isLarge then ⟨.infinite false, true⟩ else ⟨.zero, true⟩

/-- A significand with a power of ten. -/
def ofDecimal (d : Number.Decimal) : Magnitude :=
  if d.significand = 0 ∨ 400 < d.magnitude ∨ d.magnitude < -400 then
    beyond (0 < d.magnitude) (d.significand = 0)
  else if 0 ≤ d.exponent then
    ofQuanta (d.significand * Nat.pow 10 d.exponent.toNat * Number.one) 1
  else ofQuanta (d.significand * Number.one) (Nat.pow 10 (-d.exponent).toNat)

/-- A significand with a power of two. -/
def ofBinary (significand : Nat) (power : Int) : Magnitude :=
  let size : Int := significand.log2 + power
  if significand = 0 ∨ 1100 < size ∨ size < -1100 then beyond (0 < size) (significand = 0)
  else if 0 ≤ power then ofQuanta (significand * Nat.pow 2 power.toNat * Number.one) 1
  else ofQuanta (significand * Number.one) (Nat.pow 2 (-power).toNat)

/-- Digits with a point among them, if there is a digit: what they are worth without the point, how
many stand after it, and the rest. -/
def takeDigits? (base : Nat) (cs : Raw) : Option (Nat × Nat × Raw) :=
  let (whole, rest) := Calculation.readDigits base cs
  let hasWhole := rest.length < cs.length
  match rest with
  | '.' :: tail =>
    let fraction := tail.takeWhile fun c => Calculation.digitValue c < base
    if hasWhole ∨ fraction ≠ [] then
      some (fraction.foldl (fun n c => n * base + Calculation.digitValue c) whole, fraction.length,
        tail.drop fraction.length)
    else none
  | rest => if hasWhole then some (whole, 0, rest) else none

/-- The exponent after one of the two letters; without a digit there is none. -/
def takeExponent (lower upper : Char) (cs : Raw) : Int × Raw :=
  match cs with
  | letter :: tail =>
    if letter = lower ∨ letter = upper then
      let (negative, digits) : Bool × Raw := match tail with
        | '-' :: digits => (true, digits)
        | '+' :: digits => (false, digits)
        | digits => (false, digits)
      let (n, rest) := Calculation.readDigits 10 digits
      if rest.length = digits.length then (0, cs) else (if negative then -n else n, rest)
    else (0, cs)
  | [] => (0, [])

/-- What follows a word, if a text starts with it in any case. -/
def dropWord? (word : String) (cs : Raw) : Option Raw :=
  let n := word.toList.length
  if (cs.take n).map Char.toLower = word.toList then some (cs.drop n) else none

/-- The number at the start of a text without a sign, and the rest: a word, a number in base sixteen
after `0x`, or one in base ten. -/
def take? (cs : Raw) : Option (Magnitude × Raw) :=
  match dropWord? "inf" cs, dropWord? "nan" cs with
  | some rest, _ => some (⟨.infinite false, false⟩, (dropWord? "inity" rest).getD rest)
  | _, some rest =>
    let noted := match rest with
      | '(' :: tail =>
        match tail.dropWhile fun c => c.isAlphanum || c = '_' with
        | ')' :: after => after
        | _ => rest
      | rest => rest
    some (⟨.nan, false⟩, noted)
  | none, none =>
    match (dropWord? "0x" cs).bind (takeDigits? 16) with
    | some (n, places, rest) =>
      let (power, rest) := takeExponent 'p' 'P' rest
      some (ofBinary n (power - 4 * places), rest)
    | none =>
      (takeDigits? 10 cs).map fun (n, places, rest) =>
        let (power, rest) := takeExponent 'e' 'E' rest
        (ofDecimal ⟨n, power - places⟩, rest)

end Magnitude

/-- The double that an argument stands for, as a sign and the double without it, with what there is to
complain about. -/
def double (d : Dialect) (text : Raw) : Bool × Double × Option Raw :=
  match text with
  | [] => (false, .zero, none)
  | c :: cs =>
    if c = '"' ∨ c = '\'' then (false, .ofNat ((cs.head?.map Char.toNat).getD 0), none)
    else
      let body := text.dropWhile isBlank
      let (negative, unsigned) : Bool × Raw := match body with
        | '-' :: rest => (true, rest)
        | '+' :: rest => (false, rest)
        | rest => (false, rest)
      match Magnitude.take? unsigned with
      | none => (false, .zero, some (d.notNumeric text))
      | some (m, rest) =>
        (negative, m.value, if rest ≠ [] then some (d.notComplete text)
          else if m.isOut then some (d.outOfRange text) else none)

end PlannerTrials.Host.Format
