import PlannerTrials.Host.Regex.Basic

/-!
# How regular expressions are written

There are two ways of writing regular expressions, which differ in their signs.  In the basic one,
brackets, braces and the signs for repetition and choice get their meaning from a backslash, in the
extended one they lose it by a backslash.  A sign of repetition at the start has no meaning in the
basic way.  A backslash before a character that needs none is allowed, and so is a closing round
bracket without an opening one in the extended way.

An expression is first cut into signs and then read as a choice of sequences of repetitions.
-/

namespace PlannerTrials.Host

namespace Regex

/-- Why a text is no regular expression. -/
inductive WritingFault where
  | trailingBackslash
  | backReference
  | openBracket
  /-- A bracket with nothing after it. -/
  | bareBracket
  | openGroup
  | closedGroup
  | openInterval
  | interval
  | rangeEnd
  | collation
  | className
  | classOutside
  | tooBig
  deriving DecidableEq, Repr

namespace WritingFault

/-- The wording of a fault. -/
def message : WritingFault → String
  | trailingBackslash => "Trailing backslash"
  | backReference => "Invalid back reference"
  | openBracket => "Unmatched [, [^, [:, [., or [="
  | bareBracket => "Invalid regular expression"
  | openGroup => "Unmatched ( or \\("
  | closedGroup => "Unmatched ) or \\)"
  | openInterval => "Unmatched \\\x7b"
  | interval => "Invalid content of \\\x7b\\\x7d"
  | rangeEnd => "Invalid range end"
  | collation => "Invalid collation character"
  | className => "Invalid character class name"
  | classOutside => "character class syntax is [[:space:]], not [:space:]"
  | tooBig => "Regular expression too big"

end WritingFault

/-- A sign of a written expression. -/
inductive Sign where
  | test (test : CharTest)
  | edge (edge : Edge)
  | back (number : Nat)
  | repetition (least : Nat) (most : Option Nat)
  | bar
  | opening
  | closing
  deriving DecidableEq, Repr

/-- How expressions are written and what they are about. -/
structure Manner where
  /-- Signs have their meaning without a backslash. -/
  extended : Bool := false
  /-- Expressions are about characters, and otherwise about bytes. -/
  unicode : Bool := false
  /-- Capital and small letters count as the same. -/
  folded : Bool := false
  deriving DecidableEq, Repr

/-- The most repetitions that an interval may ask for. -/
def repetitionLimit : Nat := 32767

/-! ## Sets in brackets -/

/-- Reads a name between a bracket with a mark and the same mark with a bracket. -/
def readBracketName (mark : Char) : List Char → Option (List Char × List Char)
  | [] => none
  | [_] => none
  | c :: d :: rest =>
    if c = mark ∧ d = ']' then some ([], rest)
    else (readBracketName mark (d :: rest)).map fun (name, r) => (c :: name, r)

/-- The members of a set that have been read. -/
structure Members where
  ranges : List (Char × Char) := []
  classes : List CharClass := []

/-- The members together with a range. -/
def Members.addRange (m : Members) (r : Char × Char) : Members := { m with ranges := r :: m.ranges }

/-- The members together with a class. -/
def Members.addClass (m : Members) (unicode : Bool) (cls : CharClass) : Members :=
  ⟨cls.ranges ++ m.ranges, if unicode then cls :: m.classes else m.classes⟩

/-- A character that stands between a bracket with a mark and the same mark with a bracket. -/
def readNamedChar (manner : Manner) (mark : Char) (cs : List Char) : Except WritingFault (Char × List Char) :=
  match readBracketName mark cs with
  | some ([c], rest) =>
    if manner.unicode ∧ !isNarrow c then .error .collation else .ok (c, rest)
  | some _ => .error .collation
  | none => .error .openBracket

/-- The end of a range, with what follows. -/
def readRangeEnd (manner : Manner) : List Char → Except WritingFault (Char × List Char)
  | '[' :: '.' :: rest => readNamedChar manner '.' rest
  | '[' :: mark :: rest =>
    if mark = '=' ∨ mark = ':' then
      match readBracketName mark rest with
      | some _ => .error .rangeEnd
      | none => .error .openBracket
    else .ok ('[', mark :: rest)
  | c :: rest => .ok (c, rest)
  | [] => .error .openBracket

/-- The range between two characters.  The order of characters of more than one byte is not known. -/
def range (manner : Manner) (low high : Char) : Except WritingFault (Char × Char) :=
  let key (c : Char) : Char := if manner.folded then c.toUpper else c
  let isByCapitals := manner.unicode && manner.folded
  if manner.unicode ∧ !(isNarrow low && isNarrow high) then .error .collation
  else if key high < key low then .error .rangeEnd
  else .ok (if isByCapitals then (key low, key high) else (low, high))

/-- Reads the members of a set up to its closing bracket, which may also come first. -/
def readSet (manner : Manner) : (fuel : Nat) → (first : Bool) → List Char →
    Except WritingFault (Members × List Char)
  | 0, _, _ => .error .openBracket
  | _, _, [] => .error .openBracket
  | fuel + 1, first, cs =>
    match first, cs with
    | false, ']' :: rest => .ok ({}, rest)
    | _, '[' :: ':' :: rest =>
      match readBracketName ':' rest with
      | none => .error .openBracket
      | some (name, rest) =>
        match CharClass.named? name with
        | none => .error .className
        | some cls => do
          let (more, rest) ← readSet manner fuel false rest
          return (more.addClass manner.unicode cls, rest)
    | _, '[' :: '=' :: rest => do
      let (c, rest) ← readNamedChar manner '=' rest
      let (more, rest) ← readSet manner fuel false rest
      return (more.addRange (c, c), rest)
    | false, '-' :: d :: rest =>
      if d = ']' then .ok (({} : Members).addRange ('-', '-'), rest) else .error .rangeEnd
    | _, cs => do
      let (low, rest) ← match cs with
        | '[' :: '.' :: rest => readNamedChar manner '.' rest
        | c :: rest => .ok (c, rest)
        | [] => .error .openBracket
      match rest with
      | '-' :: ']' :: _ =>
        let (more, rest) ← readSet manner fuel false rest
        return (more.addRange (low, low), rest)
      | '-' :: rest =>
        let (high, rest) ← readRangeEnd manner rest
        let found ← range manner low high
        let (more, rest) ← readSet manner fuel false rest
        return (more.addRange found, rest)
      | rest =>
        let (more, rest) ← readSet manner fuel false rest
        return (more.addRange (low, low), rest)

/-- Reads a set after its opening bracket. -/
def readBracket (manner : Manner) (cs : List Char) : Except WritingFault (CharTest × List Char) := do
  let (negated, inner) : Bool × List Char := match cs with
    | '^' :: rest => (true, rest)
    | cs => (false, cs)
  if inner = [] then throw .bareBracket
  let (members, rest) ← readSet manner (inner.length + 1) true inner
  let text := cs.take (cs.length - rest.length)
  if text.head? = some ':' ∧ 3 < text.length ∧ text[text.length - 2]? = some ':' then
    throw .classOutside
  return (.among negated members.ranges members.classes, rest)

/-! ## Signs -/

/-- What is known while signs are read. -/
structure Place where
  /-- A repetition has nothing to repeat here. -/
  atStart : Bool
  /-- An expression starts here. -/
  fresh : Bool
  /-- The groups that are open, the innermost first. -/
  pending : List Nat
  /-- The number of groups that have been opened. -/
  opened : Nat
  /-- The groups that have been closed. -/
  closed : List Nat

/-- Reads the content of an interval up to its end: the least and the most, which may be smaller. -/
def readInterval (extended : Bool) (cs : List Char) : Option ((Nat × Option Nat) × List Char) :=
  let low := cs.takeWhile Number.isDigit
  let rest := cs.dropWhile Number.isDigit
  let (bounds?, rest) : Option (Nat × Option Nat) × List Char :=
    match rest with
    | ',' :: rest =>
      let high := rest.takeWhile Number.isDigit
      let most := if high = [] then none else some (Number.digitsValue 0 high)
      (some (Number.digitsValue 0 low, most), rest.dropWhile Number.isDigit)
    | rest =>
      (if low = [] then none
        else some (Number.digitsValue 0 low, some (Number.digitsValue 0 low)), rest)
  let rest? : Option (List Char) :=
    if extended then
      match rest with
      | '\x7d' :: rest => some rest
      | _ => none
    else
      match rest with
      | '\\' :: '\x7d' :: rest => some rest
      | _ => none
  match bounds?, rest? with
  | some bounds, some rest => some (bounds, rest)
  | _, _ => none

/-- What a letter or sign after a backslash means in both ways of writing. -/
def escaped? (unicode : Bool) (c : Char) : Option Sign :=
  match c with
  | '<' => some (.edge (.wordStart unicode))
  | '>' => some (.edge (.wordEnd unicode))
  | 'b' => some (.edge (.wordEdge unicode))
  | 'B' => some (.edge (.noWordEdge unicode))
  | '\x60' => some (.edge .lineStart)
  | '\'' => some (.edge .lineEnd)
  | 'w' => some (.test (.ofWords unicode false))
  | 'W' => some (.test (.ofWords unicode true))
  | 's' => some (.test (.ofClass unicode false .space))
  | 'S' => some (.test (.ofClass unicode true .space))
  | _ => none

/-- Cuts an expression into signs, with the warnings about it. -/
def readSigns (manner : Manner) : (fuel : Nat) → Place → List Char →
    Except WritingFault (List Sign × List String)
  | 0, _, _ => .ok ([], [])
  | _, p, [] => if p.pending = [] then .ok ([], []) else .error .openGroup
  | fuel + 1, p, c :: cs =>
    let extended := manner.extended
    let put (sign : Sign) (cs : List Char) : Except WritingFault (List Sign × List String) := do
      let (signs, warnings) ← readSigns manner fuel { p with atStart := false, fresh := false } cs
      return (sign :: signs, warnings)
    let plain (c : Char) (cs : List Char) := put (.test (.exactly c)) cs
    let place (asked : Edge) (cs : List Char) : Except WritingFault (List Sign × List String) := do
      let (signs, warnings) ← readSigns manner fuel { p with fresh := false } cs
      return (.edge asked :: signs, warnings)
    let warn (text : String) (next : Except WritingFault (List Sign × List String)) :
        Except WritingFault (List Sign × List String) := do
      let (signs, warnings) ← next
      return (signs, text :: warnings)
    let openGroup (cs : List Char) : Except WritingFault (List Sign × List String) := do
      let p := { p with
        atStart := true, fresh := true, pending := (p.opened + 1) :: p.pending, opened := p.opened + 1 }
      let (signs, warnings) ← readSigns manner fuel p cs
      return (.opening :: signs, warnings)
    let closeGroup (cs : List Char) : Except WritingFault (List Sign × List String) := do
      match p.pending with
      | [] => if extended then plain ')' cs else throw .closedGroup
      | innermost :: pending =>
        let p := { p with atStart := false, fresh := false, pending, closed := innermost :: p.closed }
        let (signs, warnings) ← readSigns manner fuel p cs
        return (.closing :: signs, warnings)
    let choice (cs : List Char) : Except WritingFault (List Sign × List String) := do
      let (signs, warnings) ← readSigns manner fuel { p with atStart := true, fresh := true } cs
      return (.bar :: signs, warnings)
    let repetition (text : String) (least : Nat) (most : Option Nat) (cs : List Char) :=
      if p.atStart then
        if extended then
          warn (text ++ " at start of expression") (readSigns manner fuel p cs)
        else plain c cs
      else do
        if repetitionLimit < (most.getD least) then throw .tooBig
        let (signs, warnings) ← readSigns manner fuel p cs
        return (.repetition least most :: signs, warnings)
    let interval (cs : List Char) : Except WritingFault (List Sign × List String) :=
      match readInterval extended cs with
      | some ((least, most), rest) =>
        if p.atStart ∧ ¬extended then plain '\x7b' cs
        else if most.getD least < least then .error .interval
        else if p.atStart then
          warn "\x7b...\x7d at start of expression" (readSigns manner fuel { p with atStart := false } rest)
        else repetition "\x7b...\x7d" least most rest
      | none =>
        if p.atStart ∧ ¬extended then plain '\x7b' cs else
        if extended then plain '\x7b' cs
        else if cs.any (· = '\x7d') then .error .interval
        else .error .openInterval
    match c with
    | '\\' =>
      match cs with
      | [] => .error .trailingBackslash
      | d :: cs =>
        match escaped? manner.unicode d with
        | some (.edge asked) => place asked cs
        | some sign => put sign cs
        | none =>
          if '1' ≤ d ∧ d ≤ '9' then
            let number := d.toNat - 48
            if p.closed.contains number then put (.back number) cs else .error .backReference
          else if extended then plain d cs
          else
            match d with
            | '(' => openGroup cs
            | ')' => closeGroup cs
            | '|' => choice cs
            | '\x7b' => interval cs
            | '+' => if p.atStart then plain '+' cs else repetition "+" 1 none cs
            | '?' => if p.atStart then plain '?' cs else repetition "?" 0 (some 1) cs
            | d => plain d cs
    | '^' =>
      if extended ∨ p.fresh then place .lineStart cs else plain c cs
    | '$' =>
      let final : Bool :=
        match cs with
        | [] => true
        | '\\' :: d :: _ => d = ')' || d = '|'
        | _ => false
      if extended ∨ final then place .lineEnd cs else plain c cs
    | '.' => put (.test .any) cs
    | '*' => repetition "*" 0 none cs
    | '[' => do
      let (test, rest) ← readBracket manner cs
      put (.test test) rest
    | _ =>
      if extended then
        match c with
        | '(' => openGroup cs
        | ')' => closeGroup cs
        | '|' => choice cs
        | '\x7b' => interval cs
        | '+' => repetition "+" 1 none cs
        | '?' => repetition "?" 0 (some 1) cs
        | c => plain c cs
      else plain c cs

/-! ## Expressions -/

mutual

/-- Reads a choice up to a closing sign, with the number of the groups before it. -/
def readChoice : (fuel : Nat) → (groups : Nat) → List Sign → Regex × Nat × List Sign
  | 0, groups, signs => (.empty, groups, signs)
  | fuel + 1, groups, signs =>
    match readSequence fuel groups signs with
    | (first, groups, .bar :: rest) =>
      let (second, groups, rest) := readChoice fuel groups rest
      (.either first second, groups, rest)
    | found => found

/-- Reads a sequence. -/
def readSequence : (fuel : Nat) → (groups : Nat) → List Sign → Regex × Nat × List Sign
  | 0, groups, signs => (.empty, groups, signs)
  | fuel + 1, groups, signs =>
    match signs with
    | [] | .bar :: _ | .closing :: _ => (.empty, groups, signs)
    | .repetition _ _ :: rest => readSequence fuel groups rest
    | sign :: rest =>
      let (first, groups, rest) : Regex × Nat × List Sign :=
        match sign with
        | .test asked => (.one asked, groups, rest)
        | .edge asked => (.edge asked, groups, rest)
        | .back number => (.back number none, groups, rest)
        | _ =>
          let (inner, after, rest) := readChoice fuel (groups + 1) rest
          (.group (groups + 1) inner, after, rest.drop 1)
      let repetitions := rest.takeWhile fun
        | .repetition _ _ => true
        | _ => false
      let first := repetitions.foldl
        (fun e sign =>
          match sign with
          | .repetition least most => .repeated e least most
          | _ => e)
        first
      let (others, groups, rest) := readSequence fuel groups (rest.drop repetitions.length)
      (.both first others, groups, rest)

end

/-- The expression that a text means, with the number of its groups and the warnings about it. -/
def ofGroupedText (manner : Manner) (cs : List Char) :
    Except WritingFault (Regex × Nat × List String) := do
  let (signs, warnings) ← readSigns manner (cs.length + 1) ⟨true, true, [], 0, []⟩ cs
  let (e, groups, _) := readChoice (2 * signs.length + 2) 0 signs
  return (if manner.folded then e.folded manner.unicode else e, groups, warnings)

/-- The expression that a text means, with the warnings about it. -/
def ofText (manner : Manner) (cs : List Char) : Except WritingFault (Regex × List String) := do
  let (e, _, warnings) ← ofGroupedText manner cs
  return (e.simplified, warnings)

end Regex

end PlannerTrials.Host
