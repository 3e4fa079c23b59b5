import PlannerTrials.Host.Script

/-!
# Calculations of the shell

Integers of 64 bits with the operators and the ranks of C, without steps up and down.  A variable counts
as the number that it holds, and as zero if it holds none; it may also be assigned.  A part whose
value is not asked for is read, but neither divides nor assigns.

Values are found while the calculation is read, so that of two faults the first one counts.
-/

namespace PlannerTrials.Host

namespace Calculation

/-- How many integers have 64 bits. -/
def wordCount : Nat := 0x10000000000000000

/-- The largest integer of 64 bits. -/
def largest : Int := 0x7fffffffffffffff

/-- The least integer of 64 bits. -/
def least : Int := -0x8000000000000000

/-- The integer that is left of another one in 64 bits. -/
def wrap (n : Int) : Int := Int.bmod n wordCount

/-- The closest integer of 64 bits. -/
def clamp (n : Int) : Int := max least (min largest n)

/-- A piece of a calculation. -/
inductive Mark where
  | number (n : Int)
  | name (name : Raw)
  | sign (sign : String)
  | unknown
  deriving DecidableEq, Repr

/-- The signs, longer ones first. -/
def signs : List String :=
  ["<<=", ">>=", "||", "&&", "==", "!=", "<=", ">=", "<<", ">>", "*=", "/=", "%=", "+=", "-=", "&=",
    "^=", "|=", "=", "!", "<", ">", "(", ")", "*", "/", "%", "+", "-", "&", "^", "|", "~", "?", ":"]

/-- The value of a digit of any base. -/
def digitValue (c : Char) : Nat :=
  if c.isDigit then c.toNat - 48
  else if 'a' ≤ c ∧ c ≤ 'z' then c.toNat - 87
  else if 'A' ≤ c ∧ c ≤ 'Z' then c.toNat - 55
  else 99

/-- Reads digits of a base. -/
def readDigits (base : Nat) (cs : Raw) : Nat × Raw :=
  let inBase (c : Char) : Bool := digitValue c < base
  ((cs.takeWhile inBase).foldl (fun n c => n * base + digitValue c) 0, cs.dropWhile inBase)

/-- Reads a number, which is octal after a zero and hexadecimal after `0x`. -/
def readNumber (cs : Raw) : Int × Raw :=
  let (n, rest) : Nat × Raw :=
    match cs with
    | '0' :: x :: d :: rest =>
      if (x = 'x' ∨ x = 'X') ∧ digitValue d < 16 then readDigits 16 (d :: rest)
      else readDigits 8 cs
    | '0' :: _ => readDigits 8 cs
    | cs => readDigits 10 cs
  (clamp n, rest)

/-- Cuts a calculation into its pieces; nothing is read after an unknown character. -/
def marks : (fuel : Nat) → Raw → List Mark
  | 0, _ => []
  | _, [] => []
  | fuel + 1, c :: cs =>
    if c = ' ' ∨ c = '\t' ∨ c = '\n' then marks fuel cs
    else if c.isDigit then
      let (n, rest) := readNumber (c :: cs)
      .number n :: marks fuel rest
    else if Word.startsName c then
      .name ((c :: cs).takeWhile Word.isNameChar) :: marks fuel ((c :: cs).dropWhile Word.isNameChar)
    else
      match signs.find? fun s => s.toList.isPrefixOf (c :: cs) with
      | some s => .sign s :: marks fuel ((c :: cs).drop s.length)
      | none => [.unknown]

/-- Why a calculation has no value. -/
inductive Fault where
  | expecting (what : String)
  | divisionByZero
  /-- A variable holds no number. -/
  | illegalNumber (text : Raw)
  | tooDeep
  deriving DecidableEq, Repr

/-- The ranks of the operators between two values; a lower one binds closer. -/
def ranks : List (String × Nat) :=
  [("*", 0), ("/", 0), ("%", 0), ("+", 1), ("-", 1), ("<<", 2), (">>", 2), ("<", 3), ("<=", 3),
    (">", 3), (">=", 3), ("==", 4), ("!=", 4), ("&", 5), ("^", 6), ("|", 7)]

/-- The assigning signs with their operators. -/
def assigning : List (String × String) :=
  [("*=", "*"), ("/=", "/"), ("%=", "%"), ("+=", "+"), ("-=", "-"), ("<<=", "<<"), (">>=", ">>"),
    ("&=", "&"), ("^=", "^"), ("|=", "|")]

/-- The value of a truth value. -/
def ofBool (b : Bool) : Int := if b then 1 else 0

/-- An operation on the bits of two integers. -/
def bitwise (op : Nat → Nat → Nat) (a b : Int) : Int :=
  wrap (op (a % wordCount).toNat (b % wordCount).toNat)

/-- The value of an operator. -/
def apply (sign : String) (a b : Int) : Except Fault Int :=
  let shift := (b % 64).toNat
  match sign with
  | "*" => .ok (wrap (a * b))
  | "/" => if b = 0 then .error .divisionByZero else .ok (wrap (Int.tdiv a b))
  | "%" => if b = 0 then .error .divisionByZero else .ok (wrap (Int.tmod a b))
  | "+" => .ok (wrap (a + b))
  | "-" => .ok (wrap (a - b))
  | "<<" => .ok (wrap (a * Nat.pow 2 shift))
  | ">>" => .ok (Int.fdiv a (Nat.pow 2 shift))
  | "<" => .ok (ofBool (a < b))
  | "<=" => .ok (ofBool (a ≤ b))
  | ">" => .ok (ofBool (a > b))
  | ">=" => .ok (ofBool (a ≥ b))
  | "==" => .ok (ofBool (a = b))
  | "!=" => .ok (ofBool (a ≠ b))
  | "&" => .ok (bitwise Nat.land a b)
  | "^" => .ok (bitwise Nat.xor a b)
  | _ => .ok (bitwise Nat.lor a b)

/-- What is known while a calculation is read: the pieces left and the variables assigned, the latest
first. -/
structure Progress where
  left : List Mark
  assigned : List (Raw × Int) := []

/-- Reading a calculation. -/
abbrev Reading := StateT Progress (Except Fault)

/-- The next piece, which is taken. -/
def take : Reading (Option Mark) := do
  let p ← get
  set { p with left := p.left.tail }
  return p.left.head?

/-- The next piece, which stays. -/
def peek : Reading (Option Mark) := do return (← get).left.head?

/-- Takes a sign if it is the next piece. -/
def skipIf (sign : String) : Reading Bool := do
  if (← peek) = some (.sign sign) then
    let _ ← take
    return true
  else return false

/-- The number that a text is as a whole, with blanks around it; an empty one is zero. -/
def numberOf? (text : Raw) : Option Int :=
  let isBlank (c : Char) : Bool := c = ' ' || ('\t' ≤ c && c ≤ '\r')
  let text := text.dropWhile isBlank
  let (negative, digits) : Bool × Raw :=
    match text with
    | '-' :: rest => (true, rest)
    | '+' :: rest => (false, rest)
    | rest => (false, rest)
  match digits with
  | [] => if text = [] then some 0 else none
  | c :: _ =>
    if c.isDigit then
      let (n, rest) := readNumber digits
      if rest.all isBlank then some (if negative then -n else n) else none
    else none

/-- The number that a variable holds. -/
def valueOf (lookup : Raw → Raw) (name : Raw) : Reading Int := do
  match (← get).assigned.lookup name with
  | some n => return n
  | none =>
    match numberOf? (lookup name) with
    | some n => return n
    | none => throw (.illegalNumber (lookup name))

/-- Gives a variable a value. -/
def assign (name : Raw) (n : Int) : Reading Unit :=
  modify fun p => { p with assigned := (name, n) :: p.assigned }

mutual

/-- Reads a value with its signs. -/
def primary (lookup : Raw → Raw) : (fuel : Nat) → (idle : Bool) → Reading Int
  | 0, _ => throw .tooDeep
  | fuel + 1, idle => do
    match ← take with
    | some (.number n) => return n
    | some (.name name) => if idle then return 0 else valueOf lookup name
    | some (.sign "(") =>
      let n ← assignment lookup fuel idle
      if ← skipIf ")" then return n else throw (.expecting "expecting ')'")
    | some (.sign "+") => primary lookup fuel idle
    | some (.sign "-") => return wrap (-(← primary lookup fuel idle))
    | some (.sign "!") => return ofBool ((← primary lookup fuel idle) = 0)
    | some (.sign "~") => return -(← primary lookup fuel idle) - 1
    | _ => throw (.expecting "expecting primary")

/-- Reads operators that bind at least as close as a rank after a value. -/
def operators (lookup : Raw → Raw) : (fuel : Nat) → (idle : Bool) → (rank : Nat) → Int → Reading Int
  | 0, _, _, _ => throw .tooDeep
  | fuel + 1, idle, rank, a => do
    match ← peek with
    | some (.sign sign) =>
      match ranks.lookup sign with
      | none => return a
      | some r =>
        if rank < r then return a
        else
          let _ ← take
          let b ← primary lookup fuel idle
          let b ← if r = 0 then pure b else operators lookup fuel idle (r - 1) b
          let n ← if idle then pure b else (match apply sign a b with
            | .ok n => pure n
            | .error fault => throw fault)
          operators lookup fuel idle rank n
    | _ => return a

/-- Reads values joined by `&&`. -/
def conjunction (lookup : Raw → Raw) : (fuel : Nat) → (idle : Bool) → Reading Int
  | 0, _ => throw .tooDeep
  | fuel + 1, idle => do
    let a ← operators lookup fuel idle 7 (← primary lookup fuel idle)
    if ← skipIf "&&" then
      let b ← conjunction lookup fuel (idle || a = 0)
      return ofBool (a ≠ 0 && b ≠ 0)
    else return a

/-- Reads values joined by `||`. -/
def disjunction (lookup : Raw → Raw) : (fuel : Nat) → (idle : Bool) → Reading Int
  | 0, _ => throw .tooDeep
  | fuel + 1, idle => do
    let a ← conjunction lookup fuel idle
    if ← skipIf "||" then
      let b ← disjunction lookup fuel (idle || a ≠ 0)
      return ofBool (a ≠ 0 || b ≠ 0)
    else return a

/-- Reads a choice by a condition. -/
def choice (lookup : Raw → Raw) : (fuel : Nat) → (idle : Bool) → Reading Int
  | 0, _ => throw .tooDeep
  | fuel + 1, idle => do
    let a ← disjunction lookup fuel idle
    if ← skipIf "?" then
      let b ← assignment lookup fuel (idle || a = 0)
      if ← skipIf ":" then
        let c ← choice lookup fuel (idle || a ≠ 0)
        return if a ≠ 0 then b else c
      else throw (.expecting "expecting ':'")
    else return a

/-- Reads an assignment or a choice. -/
def assignment (lookup : Raw → Raw) : (fuel : Nat) → (idle : Bool) → Reading Int
  | 0, _ => throw .tooDeep
  | fuel + 1, idle => do
    match (← get).left with
    | .name name :: .sign sign :: rest =>
      if sign = "=" ∨ (assigning.lookup sign).isSome then
        modify fun p => { p with left := rest }
        let b ← assignment lookup fuel idle
        if idle then return b
        else
          let n ← match assigning.lookup sign with
            | none => pure b
            | some op => do
              match apply op (← valueOf lookup name) b with
              | .ok n => pure n
              | .error fault => throw fault
          assign name n
          return n
      else choice lookup fuel idle
    | _ => choice lookup fuel idle

end

/-- The value of a calculation with the variables that it assigns, the latest first. -/
def value (lookup : Raw → Raw) (cs : Raw) : Except Fault (Int × List (Raw × Int)) := do
  let pieces := marks (cs.length + 1) cs
  let reading : Reading Int := do
    let n ← assignment lookup (20 * pieces.length + 20) false
    if (← peek).isSome then throw (.expecting "expecting EOF")
    return n
  let (n, p) ← reading.run { left := pieces }
  return (n, p.assigned)

/-- What is told about a fault in a calculation. -/
def Fault.message (text : Raw) : Fault → Raw
  | .expecting what => "arithmetic expression: ".toList ++ what.toList ++ ": \"".toList ++ text ++ ['"']
  | .divisionByZero => "arithmetic expression: division by zero: \"".toList ++ text ++ ['"']
  | .illegalNumber value => "Illegal number: ".toList ++ value
  | .tooDeep => "arithmetic expression: expecting primary: \"".toList ++ text ++ ['"']

end Calculation

end PlannerTrials.Host
