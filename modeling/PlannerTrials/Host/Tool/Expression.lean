import PlannerTrials.Host.Condition
import PlannerTrials.Host.Regex.Written
import PlannerTrials.Host.Tool.Basic

/-!
# Expressions as arguments

`test` finds out whether a condition holds, and `expr` prints the value of an expression.  For both, each
argument is a token.  How `test` reads up to four arguments only depends on their number.
-/

namespace PlannerTrials.Host

namespace Tool

open Files (FileTree)

/-! ## Conditions -/

namespace Test

/-- Whether a word stands between two operands. -/
def isBinary (word : Raw) : Bool :=
  word = "==".toList || Condition.kindOf word == some .binary

/-- Whether a word is an operator with one operand. -/
def isUnary (word : Raw) : Bool := Condition.kindOf word == some .unary

/-- What is wrong where an argument is missing. -/
def missing (last : Raw) : Raw := "missing argument after ".toList ++ quoted last

/-- The integer that a word has to be. -/
def integer (word : Raw) : Except Raw Int :=
  match Condition.integer? word with
  | some n => .ok n
  | none => .error ("invalid integer ".toList ++ quoted word)

/-- Whether an operator holds between two words. -/
def between (files : FileTree) (a operator b : Raw) : Except Raw Bool :=
  Condition.holdsBetween files integer a (if operator = "==".toList then ['='] else operator) b

/-- Whether an operator holds for a word. -/
def unary (files : FileTree) (operator word : Raw) : Except Raw Bool :=
  if isUnary operator then .ok (Condition.holdsFor files operator word)
  else .error (quoted operator ++ ": unary operator expected".toList)

mutual

/-- Reads conditions of which one has to hold; the result is whether it does, and the words left. -/
def anyOf (files : FileTree) : (fuel : Nat) → (last : Raw) → List Raw → Except Raw (Bool × List Raw)
  | 0, _, words => .ok (false, words)
  | fuel + 1, last, words => do
    let (first, rest) ← allOf files fuel last words
    match rest with
    | ['-', 'o'] :: rest =>
      let (second, rest) ← anyOf files fuel "-o".toList rest
      return (first || second, rest)
    | rest => return (first, rest)

/-- Reads conditions all of which have to hold. -/
def allOf (files : FileTree) : (fuel : Nat) → (last : Raw) → List Raw → Except Raw (Bool × List Raw)
  | 0, _, words => .ok (false, words)
  | fuel + 1, last, words => do
    let (first, rest) ← term files fuel last words
    match rest with
    | ['-', 'a'] :: rest =>
      let (second, rest) ← allOf files fuel "-a".toList rest
      return (first && second, rest)
    | rest => return (first, rest)

/-- Reads a single condition. -/
def term (files : FileTree) : (fuel : Nat) → (last : Raw) → List Raw → Except Raw (Bool × List Raw)
  | 0, _, words => .ok (false, words)
  | fuel + 1, last, words => do
    match words with
    | [] => throw (missing last)
    | ['!'] :: rest =>
      let (holds, rest) ← term files fuel ['!'] rest
      return (!holds, rest)
    | ['('] :: rest =>
      let (holds, rest) ← anyOf files fuel ['('] rest
      match rest with
      | [')'] :: rest => return (holds, rest)
      | [] => throw (missing (words.getLastD []))
      | other :: _ => throw ("')' expected, found ".toList ++ other)
    | word :: rest =>
      match rest with
      | operator :: b :: others =>
        if isBinary operator then return (← between files word operator b, others)
        else if isUnary word then return (← unary files word operator, b :: others)
        else return (word ≠ [], rest)
      | [operand] =>
        if isUnary word then return (← unary files word operand, [])
        else if isBinary operand then throw (missing operand)
        else return (word ≠ [], rest)
      | [] => return (word ≠ [], [])

end

/-- Whether a whole condition holds. -/
def holds (files : FileTree) : (fuel : Nat) → List Raw → Except Raw Bool
  | 0, _ => .ok false
  | fuel + 1, words => do
    let general : Except Raw Bool := do
      let (result, rest) ← anyOf files (4 * words.length + 8) [] words
      match rest with
      | [] => return result
      | word :: _ => throw ("extra argument ".toList ++ quoted word)
    match words with
    | [] => return false
    | [a] => return a ≠ []
    | [['!'], a] => return a = []
    | [a, b] => if a.head? = some '-' ∧ a.length = 2 then unary files a b else throw (missing b)
    | [a, operator, b] =>
      if isBinary operator then between files a operator b
      else if a = ['!'] then return !(← holds files fuel [operator, b])
      else if a = ['('] ∧ b = [')'] then return operator ≠ []
      else if operator = "-a".toList ∨ operator = "-o".toList then general
      else throw (quoted operator ++ ": binary operator expected".toList)
    | [['!'], a, b, c] => return !(← holds files fuel [a, b, c])
    | [['('], a, b, [')']] => holds files fuel [a, b]
    | _ => general

end Test

/-- Tests a condition. -/
def test : Tool := fun i =>
  match Test.holds i.files (i.arguments.length + 1) i.arguments with
  | .ok holds => { code := if holds then 0 else 1, taken := some 0 }
  | .error fault => { ToolResult.ofErrors (said i fault) 2 with taken := some 0 }

/-- Tests a condition before a closing bracket. -/
def testBracketed : Tool := fun i =>
  if i.arguments.getLast? = some [']'] then test { i with arguments := i.arguments.dropLast }
  else { ToolResult.ofErrors (said i "missing ']'".toList) 2 with taken := some 0 }

/-! ## Values -/

namespace Expression

/-- What is known while an expression is read: the arguments left, and the one before them. -/
structure State where
  left : List Raw
  last : Raw := []

/-- Reading an expression. -/
abbrev Reading := StateT State (Except Raw)

/-- Takes the next argument. -/
def take : Reading Raw := do
  let s ← get
  match s.left with
  | [] => throw ("syntax error: missing argument after ".toList ++ quoted s.last)
  | word :: rest =>
    set (⟨rest, word⟩ : State)
    return word

/-- Takes the next argument if it is one of several. -/
def takeOne? (words : List String) : Reading (Option String) := do
  let s ← get
  match s.left with
  | [] => return none
  | word :: rest =>
    if words.contains (String.ofList word) then
      set (⟨rest, word⟩ : State)
      return some (String.ofList word)
    else return none

/-- The integer that a text is. -/
def integer? : Raw → Option Int
  | '-' :: ds => (Raw.nat? ds).map fun n => -(n : Int)
  | ds => (Raw.nat? ds).map fun n => (n : Int)

/-- Whether a value counts as nothing. -/
def isNull (value : Raw) : Bool :=
  value = [] || integer? value == some 0

/-- The integer that a value has to be. -/
def integer (value : Raw) : Reading Int :=
  match integer? value with
  | some n => return n
  | none => throw "non-integer argument".toList

/-- What matches a pattern at the start of a text: the first group of it if it has groups, else its
length. -/
def matched (text pattern : Raw) : Reading Raw := do
  match Regex.ofGroupedText {} pattern with
  | .error fault => throw fault.message.toList
  | .ok (e, groups, _) =>
    match Regex.farthest (e.ends (Regex.Spot.ofLine text)) with
    | none => return if groups = 0 then ['0'] else []
    | some spot =>
      return if groups = 0 then Number.digits (text.length - spot.left)
        else (spot.groups.lookup 1).getD []

/-- The place of the first character in a text that is one of some characters. -/
def indexOf (text characters : Raw) : Nat :=
  match text.findIdx? characters.contains with
  | some n => n + 1
  | none => 0

/-- The value of a comparison. -/
def compared (operator : String) (a b : Raw) : Bool :=
  let order := match integer? a, integer? b with
    | some m, some n => compare m n
    | _, _ => compare (String.ofList a) (String.ofList b)
  match operator with
  | "<" => order == .lt
  | "<=" => order != .gt
  | "=" | "==" => order == .eq
  | "!=" => order != .eq
  | ">=" => order != .lt
  | _ => order == .gt

/-- The value of an operator between two values. -/
def applied (operator : String) (a b : Raw) : Reading Raw := do
  match operator with
  | "|" => return if !isNull a then a else if isNull b then ['0'] else b
  | "&" => return if isNull a || isNull b then ['0'] else a
  | ":" => matched a b
  | "+" => return Raw.ofInt ((← integer a) + (← integer b))
  | "-" => return Raw.ofInt ((← integer a) - (← integer b))
  | "*" => return Raw.ofInt ((← integer a) * (← integer b))
  | "/" | "%" =>
    let m ← integer a
    let n ← integer b
    if n = 0 then throw "division by zero".toList
    else return Raw.ofInt (if operator = "/" then m.tdiv n else m.tmod n)
  | operator => return if compared operator a b then ['1'] else ['0']

/-- The operators by rank, the ones that bind closest last. -/
def ranks : List (List String) :=
  [["|"], ["&"], ["<", "<=", "=", "==", "!=", ">=", ">"], ["+", "-"], ["*", "/", "%"], [":"]]

mutual

/-- Reads values joined by the operators of some ranks. -/
def ranked : (fuel : Nat) → List (List String) → Reading Raw
  | 0, _ => throw "syntax error".toList
  | fuel + 1, [] => single fuel
  | fuel + 1, operators :: closer => do
    let first ← ranked fuel closer
    joined fuel operators closer first

/-- Reads the operators of a rank after a value. -/
def joined : (fuel : Nat) → List String → List (List String) → Raw → Reading Raw
  | 0, _, _, value => return value
  | fuel + 1, operators, closer, value => do
    match ← takeOne? operators with
    | none => return value
    | some operator =>
      let second ← ranked fuel closer
      joined fuel operators closer (← applied operator value second)

/-- Reads a single value. -/
def single : (fuel : Nat) → Reading Raw
  | 0 => throw "syntax error".toList
  | fuel + 1 => do
    match String.ofList (← take) with
    | "+" => take
    | "length" => return Number.digits (← single fuel).length
    | "match" =>
      let text ← single fuel
      matched text (← single fuel)
    | "index" =>
      let text ← single fuel
      return Number.digits (indexOf text (← single fuel))
    | "substr" =>
      let text ← single fuel
      let start ← single fuel
      let count ← single fuel
      match integer? start, integer? count with
      | some start, some count =>
        return if start < 1 ∨ count < 1 then [] else (text.drop (start.toNat - 1)).take count.toNat
      | _, _ => return []
    | "(" =>
      let value ← ranked fuel ranks
      match (← get).left with
      | [] => throw ("syntax error: expecting ')' after ".toList ++ quoted (← get).last)
      | [')'] :: _ => do
        let _ ← take
        return value
      | word :: _ => throw ("syntax error: expecting ')' instead of ".toList ++ quoted word)
    | ")" => throw "syntax error: unexpected ')'".toList
    | text => return text.toList

end

end Expression

/-- Prints the value of an expression. -/
def expr : Tool := fun i =>
  let arguments := match i.arguments with
    | ['-', '-'] :: rest => rest
    | arguments => arguments
  let reading : Expression.Reading Raw := do
    let value ← Expression.ranked (20 * arguments.length + 20) Expression.ranks
    match (← get).left with
    | [] => return value
    | word :: _ => throw ("syntax error: unexpected argument ".toList ++ quoted word)
  if arguments.isEmpty then misuse i "missing operand".toList 2
  else
    match reading.run { left := arguments } with
    | .ok (value, _) =>
      { ToolResult.ofOutput (value ++ ['\n']) with
        code := if Expression.isNull value then 1 else 0, taken := some 0 }
    | .error fault => { ToolResult.ofErrors (said i fault) 2 with taken := some 0 }

end Tool

end PlannerTrials.Host
