import PlannerTrials.Files.Tree
import PlannerTrials.Host.Calculation

/-!
# Conditions of the shell

`test` finds out whether an expression of words holds.  Whether a word is an operator depends on the
words that follow it: one that asks about a word needs that word, and one between two words is an
operand where another such operator follows.
-/

namespace PlannerTrials.Host

open Files (FileTree)

namespace Condition

/-- What kind of operator a word is. -/
inductive Kind where
  | unary
  | binary
  | negation
  | conjunction
  | disjunction
  | opening
  | closing
  deriving DecidableEq

/-- The operators. -/
def kindOf (word : Raw) : Option Kind :=
  let text := String.ofList word
  if ["-r", "-w", "-x", "-e", "-f", "-d", "-c", "-b", "-p", "-u", "-g", "-k", "-s", "-t", "-z", "-n",
      "-h", "-O", "-G", "-L", "-S"].contains text then some .unary
  else if ["=", "!=", "<", ">", "-eq", "-ne", "-ge", "-gt", "-le", "-lt", "-nt", "-ot",
      "-ef"].contains text then some .binary
  else
    match text with
    | "!" => some .negation
    | "-a" => some .conjunction
    | "-o" => some .disjunction
    | "(" => some .opening
    | ")" => some .closing
    | _ => none

/-- What a word is at its place. -/
inductive Role where
  | ending
  | operand
  | operator (kind : Kind)
  deriving DecidableEq

/-- Whether the word at the start cannot be an operator with one operand. -/
def isOperand : List Raw → Bool
  | [] | [_] => true
  | [_, _] => false
  | _ :: next :: _ => kindOf next == some .binary

/-- What the word at the start is. -/
def sortOf : List Raw → Role
  | [] => .ending
  | word :: rest =>
    match kindOf word with
    | none => .operand
    | some kind =>
      if kind = .unary ∧ isOperand (word :: rest) then .operand
      else if kind = .opening ∧ rest = [] then .operand
      else .operator kind

/-- The integer that a word is, with blanks around it. -/
def integer? (word : Raw) : Option Int :=
  let isBlank (c : Char) : Bool := c = ' ' || ('\t' ≤ c && c ≤ '\r')
  let body := word.dropWhile isBlank
  let (negative, digits) : Bool × Raw := match body with
    | '-' :: rest => (true, rest)
    | '+' :: rest => (false, rest)
    | rest => (false, rest)
  let number := digits.takeWhile Char.isDigit
  if number = [] ∨ ¬(digits.dropWhile Char.isDigit).all isBlank then none
  else
    let n : Int := (Number.digitsValue 0 number : Nat)
    some (if negative then -n else n)

/-- The integer of 64 bits that a word has to be. -/
def integer (word : Raw) : Except Raw Int :=
  match integer? word with
  | some n =>
    if Calculation.clamp n = n then .ok n else .error ("Illegal number: ".toList ++ word)
  | none => .error ("Illegal number: ".toList ++ word)

/-- Whether an operator holds for a word. -/
def holdsFor (files : FileTree) (operator word : Raw) : Bool :=
  let path := Raw.toString word
  let entry? : Option Files.Entry := (files.look path).toOption.map (·.2)
  match String.ofList operator with
  | "-n" => word ≠ []
  | "-z" => word = []
  | "-e" | "-r" | "-w" | "-O" | "-G" => entry?.isSome
  | "-f" => files.isFile path
  | "-d" => files.isFolder path
  | "-x" => match entry? with
    | some .folder | some (.program _ _) => true
    | _ => false
  | "-c" => match entry? with
    | some (.device _) => true
    | _ => false
  | "-s" => match entry? with
    | some (.file content) => content ≠ []
    | some .folder | some (.program _ _) => true
    | _ => false
  | "-h" | "-L" => match files.resolve false path with
    | .ok ⟨_, some (.link _), _⟩ => true
    | _ => false
  | _ => false

/-- Whether an operator holds between two words; integers are read by `number`. -/
def holdsBetween (files : FileTree) (number : Raw → Except Raw Int) (a operator b : Raw) :
    Except Raw Bool := do
  let compare (p : Int → Int → Bool) : Except Raw Bool := do
    return p (← number a) (← number b)
  match String.ofList operator with
  | "=" => return a = b
  | "!=" => return a ≠ b
  | "<" => return String.ofList a < String.ofList b
  | ">" => return String.ofList b < String.ofList a
  | "-eq" => compare fun m n => m = n
  | "-ne" => compare fun m n => m ≠ n
  | "-lt" => compare fun m n => m < n
  | "-le" => compare fun m n => m ≤ n
  | "-gt" => compare fun m n => m > n
  | "-ge" => compare fun m n => m ≥ n
  | "-ef" =>
    match files.look (Raw.toString a), files.look (Raw.toString b) with
    | .ok (l, _), .ok (m, _) => return l = m
    | _, _ => return false
  | _ => return false

/-- What is wrong at a word. -/
def wrong (word : Raw) (text : String) : Raw :=
  if word = [] then text.toList else word ++ ": ".toList ++ text.toList

mutual

/-- Reads conditions of which one has to hold.  The result is whether it does, with the last word that
was read and those that follow it. -/
def anyOf (files : FileTree) : (fuel : Nat) → Role → List Raw → Except Raw (Bool × List Raw)
  | 0, _, words => .ok (false, words)
  | fuel + 1, sort, words => do
    let (first, words) ← allOf files fuel sort words
    match sortOf (words.drop 1) with
    | .operator .disjunction =>
      let words := words.drop 2
      let (second, words) ← anyOf files fuel (sortOf words) words
      return (first || second, words)
    | _ => return (first, words)

/-- Reads conditions all of which have to hold. -/
def allOf (files : FileTree) : (fuel : Nat) → Role → List Raw → Except Raw (Bool × List Raw)
  | 0, _, words => .ok (false, words)
  | fuel + 1, sort, words => do
    let (first, words) ← negated files fuel sort words
    match sortOf (words.drop 1) with
    | .operator .conjunction =>
      let words := words.drop 2
      let (second, words) ← allOf files fuel (sortOf words) words
      return (first && second, words)
    | _ => return (first, words)

/-- Reads a condition that may be negated. -/
def negated (files : FileTree) : (fuel : Nat) → Role → List Raw → Except Raw (Bool × List Raw)
  | 0, _, words => .ok (false, words)
  | fuel + 1, sort, words => do
    match sort with
    | .operator .negation =>
      let next := sortOf (words.drop 1)
      let words := if next = .ending then words else words.drop 1
      let (holds, words) ← negated files fuel next words
      return (!holds, words)
    | sort => simple files fuel sort words

/-- Reads a single condition. -/
def simple (files : FileTree) : (fuel : Nat) → Role → List Raw → Except Raw (Bool × List Raw)
  | 0, _, words => .ok (false, words)
  | fuel + 1, sort, words => do
    match sort, words with
    | .ending, words => return (false, words)
    | .operator .opening, _ :: rest =>
      let next := sortOf rest
      if next = .operator .closing then return (false, rest)
      else
        let (holds, words) ← anyOf files fuel next rest
        if sortOf (words.drop 1) = .operator .closing then return (holds, words.drop 1)
        else throw "closing paren expected".toList
    | .operator .unary, operator :: rest =>
      match rest with
      | [] => throw (wrong operator "argument expected")
      | word :: _ => return (holdsFor files operator word, rest)
    | _, a :: operator :: rest =>
      if sortOf (operator :: rest) = .operator .binary then
        match rest with
        | [] => throw (wrong operator "argument expected")
        | b :: _ => return (← holdsBetween files integer a operator b, rest)
      else return (a ≠ [], words)
    | _, a :: _ => return (a ≠ [], words)
    | _, [] => return (false, [])

end

/-- Whether a whole expression holds, or what is wrong with it. -/
def holds (files : FileTree) : (fuel : Nat) → List Raw → Except Raw Bool
  | 0, _ => .ok false
  | _, [] => .ok false
  | fuel + 1, words => do
    let evaluate (sort : Role) (words : List Raw) : Except Raw Bool := do
      let (holds, rest) ← anyOf files (8 * words.length + 8) sort words
      match rest.drop 1 with
      | [] => return holds
      | _ =>
        match rest with
        | word :: _ :: _ => throw (wrong word "unexpected operator")
        | _ => return holds
    let special : Option (Except Raw Bool) :=
      if words.length = 3 ∧ (words[1]?.bind kindOf) = some .binary then
        some (evaluate .operand words)
      else if words.length = 3 ∨ words.length = 4 then
        if words.head? = some ['('] ∧ words.getLast? = some [')'] then
          let inner := words.tail.dropLast
          some (evaluate (sortOf inner) inner)
        else if words.head? = some ['!'] then some ((holds files fuel words.tail).map not)
        else none
      else none
    match special with
    | some result => result
    | none => evaluate (sortOf words) words

end Condition

end PlannerTrials.Host
