import PlannerTrials.Host.Script

/-!
# Words and signs of a script

A script is read from a `Source`, one token after the other.  A token that has been read may be put back
once, and then counts as read again.  Which words are reserved depends on the place, so that the
question is asked by whoever reads the token.

Inside apostrophes every character stands for itself; inside quotation marks only the dollar sign, the
grave accent and some escapes keep their meaning.  Outside of both a backslash quotes the next
character.  A backslash before a line feed joins two lines nearly everywhere.

Words may hold whole scripts, and scripts hold words.  The readers of this module are therefore given
a `Nested`, the readers for what stands inside.

A word may be an alias where a command is expected.  It is then replaced by the text of the alias, which
is read as if it stood there.  An alias has no meaning inside its own text, the end of which is marked
by a sign that is no character of any script.
-/

namespace PlannerTrials.Host

/-- Why a text is no script, in which line that is noticed, and how much of the text has not been
read then. -/
structure SyntaxFault where
  line : Nat
  text : Raw
  unread : Nat

/-- What kind of redirection a sign asks for. -/
inductive RedirectSign where
  | file (mode : FileMode)
  | channel
  /-- A here-document, with its leading tabs left out or not. -/
  | here (stripped : Bool)

/-- A piece of a script. -/
inductive Token where
  | ending
  | lineBreak
  | sign (text : String)
  | redirection (channel : Nat) (sign : RedirectSign)
  | word (word : Word)
  | keyword (name : String)

namespace Token

/-- How a token is called in messages. -/
def title : Token → String
  | ending => "end of file"
  | lineBreak => "newline"
  | sign text => "\"" ++ text ++ "\""
  | redirection _ _ => "redirection"
  | word _ => "word"
  | keyword name => "\"" ++ name ++ "\""

/-- The reserved words. -/
def reserved : List String :=
  ["!", "case", "do", "done", "elif", "else", "esac", "fi", "for", "if", "in", "then", "until",
    "while", "\x7b", "\x7d"]

/-- The reserved words that end a list. -/
def closers : List String := ["do", "done", "elif", "else", "esac", "fi", "then", "\x7d"]

/-- A token where words may be reserved. -/
def asKeyword : Token → Token
  | .word [.text false cs] =>
    let name := String.ofList cs
    if reserved.contains name then .keyword name else .word [.text false cs]
  | t => t

/-- The word that a token is. -/
def word? : Token → Option Word
  | .word w => some w
  | .keyword name => some [.text false name.toList]
  | _ => none

/-- Whether a token ends a list that may end. -/
def endsList : Token → Bool
  | .ending => true
  | .sign text => text = ")" || text = ";;"
  | .keyword name => closers.contains name
  | _ => false

end Token

/-- A here-document that has been asked for and not yet read. -/
structure AwaitedText where
  number : Nat
  mark : Raw
  stripped : Bool
  /-- The mark was quoted, and so is the text. -/
  quoted : Bool

/-- What is still to be read of a script. -/
structure Source where
  rest : Raw
  line : Nat
  /-- The token that is read again. -/
  pushed : Option Token := none
  awaited : List AwaitedText := []
  /-- The here-documents that have been read. -/
  texts : List (Nat × Word) := []
  /-- The number of the next here-document. -/
  nextText : Nat
  aliases : List (Raw × Raw) := []
  /-- The aliases whose texts are being read, the last one first, each with the length of what follows
  its text. -/
  expanding : List (Raw × Nat) := []
  /-- Aliases without meaning, since a part of their text is read from a text of its own. -/
  blocked : List Raw := []
  /-- The text of an alias has just ended with a blank, so that the next word may be one, too. -/
  expectsAlias : Bool := false
  /-- How much of the script follows the text of its own that is read. -/
  outside : Option Nat := none
  /-- What has not been shown yet of a script whose lines may be shown as they are read. -/
  unshown : Raw := []

namespace Source

/-- The aliases whose texts are being read. -/
def active (s : Source) : List (Raw × Nat) := s.expanding.filter fun e => e.2 < s.rest.length

/-- How much of the script has not been read, the texts of aliases not counted. -/
def unread (s : Source) : Nat := s.outside.getD ((s.active.map (·.2)).foldl min s.rest.length)

end Source

/-- Reading from a source. -/
abbrev Reader := StateT Source (Except SyntaxFault)

namespace Reader

/-- Ends the reading with a fault. -/
def fail {α : Type} (text : String) : Reader α := do
  let s ← get
  throw ⟨s.line, text.toList, s.unread⟩

/-- Ends the reading at a token that cannot stand where it stands. -/
def unexpected {α : Type} (found : Token) (expected : Option String) : Reader α :=
  match expected with
  | none => fail (found.title ++ " unexpected")
  | some title => fail (found.title ++ " unexpected (expecting " ++ title ++ ")")

/-! ## Characters -/

/-- The number of joined lines at the start of a text. -/
def joins : Raw → Nat
  | '\\' :: '\n' :: cs => joins cs + 1
  | _ => 0

/-- The next character, which stays. -/
def peekRaw : Reader (Option Char) := do return (← get).rest.head?

/-- The next character after joined lines, which stays. -/
def peek : Reader (Option Char) := do
  let s ← get
  let n := joins s.rest
  if n ≠ 0 then set { s with rest := s.rest.drop (2 * n), line := s.line + n }
  peekRaw

/-- Passes over a character. -/
def skip : Reader Unit :=
  modify fun s => { s with
    rest := s.rest.tail
    line := if s.rest.head? = some '\n' then s.line + 1 else s.line }

/-- Takes the characters of a kind. -/
def takeWhile (kind : Char → Bool) : (steps : Nat) → Reader Raw
  | 0 => pure []
  | steps + 1 => do
    match ← peek with
    | some c =>
      if kind c then
        skip
        return c :: (← takeWhile kind steps)
      else return []
    | none => return []

/-- A number of steps that is enough to read all, the texts of aliases included. -/
def allSteps : Reader Nat := do
  let s ← get
  return (s.rest.length + 2) * s.aliases.foldl (fun n a => n * (a.2.length + 2)) 1

/-- Passes over a character if it is the next one. -/
def skipIf (c : Char) : Reader Bool := do
  if (← peek) = some c then
    skip
    return true
  else return false

/-! ## Words -/

/-- What surrounds the characters that are read. -/
inductive Surrounding where
  /-- Nothing: a word. -/
  | bare
  /-- The braces of a parameter. -/
  | braces
  /-- Quotation marks, with braces around them or not. -/
  | marks (inBraces : Bool)
  /-- The braces of a parameter inside quotation marks. -/
  | markedBraces
  | calculation
  /-- A here-document. -/
  | here
  /-- The braces of a parameter in a here-document. -/
  | hereBraces
  /-- The mark that ends a here-document. -/
  | endMark
  deriving DecidableEq

namespace Surrounding

/-- Whether characters are quoted. -/
def quotes : Surrounding → Bool
  | bare | braces | endMark => false
  | _ => true

/-- Whether braces around the characters may end. -/
def inBraces : Surrounding → Bool
  | braces | markedBraces | hereBraces => true
  | marks inside => inside
  | _ => false

/-- What surrounds the text in the braces of a parameter. -/
def within : Surrounding → Surrounding
  | bare | braces | endMark => braces
  | here | hereBraces => hereBraces
  | _ => markedBraces

/-- What is told if the script ends here, unless it may. -/
def missing? : Surrounding → Option String
  | bare | endMark | here => none
  | braces | hereBraces => some "Missing '\x7d'"
  | calculation => some "Missing '))'"
  | _ => some "Unterminated quoted string"

end Surrounding

/-- The readers for what stands inside of words. -/
structure Nested where
  /-- Reads a list that may be empty. -/
  list : Reader (Option Script)
  /-- Reads such a list and its closing bracket. -/
  bracketed : Reader (Option Script)
  parts : Surrounding → Reader Word

/-- The grave accent. -/
def graveAccent : Char := '\x60'

/-- The sign at the end of the text of an alias, which tells whether the text ends with a blank. -/
def aliasEnd (blank : Bool) : Char := if blank then Char.ofNat 257 else Char.ofNat 256

/-- Whether a character is the sign at the end of the text of an alias. -/
def isAliasEnd (c : Char) : Bool := 256 ≤ c.toNat

/-- Whether a character ends a word. -/
def endsWord (c : Char) : Bool :=
  c = ' ' || c = '\t' || c = '\n' || c = ';' || c = '&' || c = '|' || c = '<' || c = '>' ||
    c = '(' || c = ')' || isAliasEnd c

/-- Whether a character is a parameter by itself. -/
def isSpecial (c : Char) : Bool :=
  c.isDigit || c = '@' || c = '*' || c = '#' || c = '?' || c = '$' || c = '!' || c = '-'

/-- Whether a character keeps its backslash from being read where characters are quoted. -/
def isEscapable (around : Surrounding) (c : Char) : Bool :=
  c = '\\' || c = graveAccent || c = '$' || (c = '"' && around ≠ .here) || (c = '\x7d' && around.inBraces)

/-- Reads the text up to an apostrophe. -/
def readQuoted : (steps : Nat) → Reader Raw
  | 0 => fail "Unterminated quoted string"
  | steps + 1 => do
    match ← peekRaw with
    | none => fail "Unterminated quoted string"
    | some c =>
      skip
      if c = '\'' then return []
      else if isAliasEnd c then readQuoted steps
      else return c :: (← readQuoted steps)

/-- Reads the text up to a grave accent. -/
def readAccented (quoted : Bool) : (steps : Nat) → Reader Raw
  | 0 => fail "EOF in backquote substitution"
  | steps + 1 => do
    match ← peek with
    | none => fail "EOF in backquote substitution"
    | some c =>
      skip
      if c = graveAccent then return []
      else if isAliasEnd c then readAccented quoted steps
      else if c = '\\' then
        match ← peekRaw with
        | none => fail "EOF in backquote substitution"
        | some d =>
          skip
          let rest ← readAccented quoted steps
          if d = '\\' ∨ d = graveAccent ∨ d = '$' ∨ (quoted ∧ d = '"') then return d :: rest
          else return '\\' :: d :: rest
      else return c :: (← readAccented quoted steps)

/-- Reads something from a text of its own. -/
def within {α : Type} (text : Raw) (line : Nat) (reader : Reader α) : Reader α := do
  let outer ← get
  set { outer with
    rest := text, line, pushed := none, awaited := [], expanding := []
    blocked := outer.active.map Prod.fst ++ outer.blocked, expectsAlias := false
    outside := some outer.unread }
  let result ← reader
  modify fun inner => { outer with texts := inner.texts, nextText := inner.nextText }
  return result

/-- Reads a script up to its closing bracket, with the here-documents kept apart. -/
def readBracketed (nested : Nested) : Reader (Option Script) := do
  let outer := (← get).awaited
  modify fun s => { s with awaited := [] }
  let script ← nested.bracketed
  modify fun s => { s with awaited := outer }
  return script

/-- Reads what a parameter in braces is used for after its name: the use, whether an empty value
counts as missing, and whether the braces are closed already. -/
def readUse : Reader (ValueUse × Bool × Bool) := do
  let orEmpty ← skipIf ':'
  match ← peek with
  | some c =>
    if !orEmpty && (c = '%' || c = '#') then
      skip
      let longest ← skipIf c
      return (.cut (c = '%') longest, false, false)
    else
      skip
      match c with
      | '\x7d' => return (.plain, orEmpty, !orEmpty)
      | '-' => return (.instead, orEmpty, false)
      | '+' => return (.alternative, orEmpty, false)
      | '?' => return (.required, orEmpty, false)
      | '=' => return (.assigned, orEmpty, false)
      | _ => return (.invalid, false, false)
  | none => return (.invalid, false, false)

/-- Reads a name or a number at the start of a text. -/
def readName : Reader Raw := do
  match ← peek with
  | some c =>
    if Word.startsName c then takeWhile Word.isNameChar (← allSteps)
    else if c.isDigit then takeWhile Char.isDigit (← allSteps)
    else return []
  | none => return []

/-- Reads the head of a parameter after its opening brace: its name, its use, whether an empty value
counts as missing, and whether the braces are closed already. -/
def readHead : Reader (Raw × ValueUse × Bool × Bool) := do
  let named (name : Raw) : Reader (Raw × ValueUse × Bool × Bool) := do
    return (name, ← readUse)
  let invalid : Raw × ValueUse × Bool × Bool := ([], .invalid, false, false)
  let name ← readName
  if name ≠ [] then named name
  else
    match ← peek with
    | none => return invalid
    | some '\x7d' => return invalid
    | some '#' =>
      skip
      let counted ← readName
      if counted ≠ [] then
        if (← peek) = some '\x7d' then return (counted, .length, false, false)
        else return (counted, .invalid, false, false)
      else
        match ← peek with
        | some c =>
          let s ← get
          skip
          let closed := (← peek) = some '\x7d'
          if c ≠ '\x7d' ∧ closed then
            if isSpecial c then return ([c], .length, false, false) else return invalid
          else
            set s
            named ['#']
        | none => return invalid
    | some c =>
      skip
      if isSpecial c then named [c] else return invalid

/-- Reads what follows a dollar sign. -/
def readDollar (nested : Nested) (around : Surrounding) : Reader Part := do
  let quoted := around.quotes
  match ← peek with
  | none => return .text quoted ['$']
  | some '(' =>
    skip
    if ← skipIf '(' then return .calculation quoted (← nested.parts .calculation)
    else
      let script ← readBracketed nested
      return .command quoted script
  | some '\x7b' =>
    skip
    let (name, use, orEmpty, closed) ← readHead
    if closed then return .parameter quoted name use orEmpty []
    else
      let inner := match use with
        | .cut _ _ => .braces
        | _ => around.within
      return .parameter quoted name use orEmpty (← nested.parts inner)
  | some c =>
    if Word.startsName c then
      return .parameter quoted (← takeWhile Word.isNameChar (← allSteps)) .plain false []
    else if isSpecial c then
      skip
      return .parameter quoted [c] .plain false []
    else return .text quoted ['$']

/-- The parts between quotation marks, which are a word even if they are empty; but all arguments may
be no word. -/
def marked : Word → Word
  | [.parameter q ['@'] .plain e w] => [.parameter q ['@'] .plain e w]
  | parts => .text true [] :: parts

/-- Reads the parts of a word up to the end of what surrounds them; `depth` counts open brackets of a
calculation, and `parts` are the parts read so far, the last one first. -/
def readParts (nested : Nested) (around : Surrounding) : (steps : Nat) → (depth : Nat) → Word →
    Reader Word
  | 0, _, parts => return parts.reverse
  | steps + 1, depth, parts => do
    let quoted := around.quotes
    let next (part : Part) : Reader Word := readParts nested around steps depth (part :: parts)
    match ← peek with
    | none =>
      match around.missing? with
      | none => return parts.reverse
      | some text => fail text
    | some c =>
      if (around = .bare ∨ around = .endMark) ∧ endsWord c then return parts.reverse
      else if isAliasEnd c then
        skip
        readParts nested around steps depth parts
      else
        skip
        match c with
        | '\\' =>
          match ← peekRaw with
          | none => next (.text true ['\\'])
          | some d =>
            skip
            if quoted ∧ ¬isEscapable around d then next (.text true ['\\', d])
            else next (.text true [d])
        | '\'' =>
          if quoted then next (.text quoted [c])
          else next (.text true (← readQuoted (← allSteps)))
        | '"' =>
          match around with
          | .marks _ => return parts.reverse
          | .here | .calculation => next (.text quoted [c])
          | _ =>
            let inner ← nested.parts (.marks around.inBraces)
            readParts nested around steps depth ((marked inner).reverse ++ parts)
        | '$' =>
          if around = .endMark then next (.text quoted [c])
          else next (← readDollar nested around)
        | '\x7d' =>
          match around with
          | .braces | .markedBraces | .hereBraces => return parts.reverse
          | _ => next (.text quoted [c])
        | '(' =>
          readParts nested around steps (depth + 1) (.text quoted [c] :: parts)
        | ')' =>
          if around = .calculation ∧ depth = 0 then
            if ← skipIf ')' then return parts.reverse else next (.text quoted [c])
          else readParts nested around steps (depth - 1) (.text quoted [c] :: parts)
        | c =>
          if c = graveAccent ∧ around ≠ .endMark then
            let line := (← get).line
            let text ← readAccented quoted (← allSteps)
            let script ← within text line nested.list
            next (.command quoted script)
          else next (.text quoted [c])

/-- Reads the parts of a word. -/
def readAllParts (nested : Nested) (around : Surrounding) : Reader Word := do
  return Word.joined (← readParts nested around (← allSteps) 0 [])

/-! ## Here-documents -/

/-- The lines of a here-document and what follows its mark. -/
def splitAtMark (awaited : AwaitedText) : List Raw → List Raw × List Raw
  | [] => ([], [])
  | line :: rest =>
    let line := if awaited.stripped then line.dropWhile (· = '\t') else line
    if Raw.chomp line = awaited.mark then ([], rest)
    else
      let (text, rest) := splitAtMark awaited rest
      (line :: text, rest)

/-- Reads the here-documents that are awaited. -/
def readTexts (nested : Nested) : (steps : Nat) → Reader Unit
  | 0 => pure ()
  | steps + 1 => do
    match (← get).awaited with
    | [] => pure ()
    | awaited :: others =>
      let s ← get
      let (text, rest) := splitAtMark awaited (Raw.lines s.rest)
      let rest := rest.flatten
      let passed := (s.rest.take (s.rest.length - rest.length)).count '\n'
      let word : Word ←
        if awaited.quoted then pure [.text true text.flatten]
        else within text.flatten s.line (nested.parts .here)
      modify fun now => { now with
        rest, line := s.line + passed, awaited := others,
        texts := (awaited.number, word) :: now.texts }
      readTexts nested steps

/-- Reads the here-documents that are awaited, if any. -/
def readAwaited (nested : Nested) : Reader Unit := do
  readTexts nested ((← get).awaited.length + 1)

/-! ## Tokens -/

/-- Passes over blanks and comments. -/
def skipBlanks : (steps : Nat) → Reader Unit
  | 0 => pure ()
  | steps + 1 => do
    match ← peek with
    | some ' ' | some '\t' =>
      skip
      skipBlanks steps
    | some '#' =>
      modify fun s => { s with rest := s.rest.dropWhile (· ≠ '\n') }
      skipBlanks steps
    | some c =>
      if isAliasEnd c then
        skip
        modify fun s => { s with expectsAlias := s.expectsAlias || c = aliasEnd true }
        skipBlanks steps
      else pure ()
    | none => pure ()

/-- Reads a sign of redirection. -/
def readRedirection (channel : Option Nat) : Reader Token := do
  let outward ← skipIf '>'
  if outward then
    let channel := channel.getD 1
    if ← skipIf '>' then return .redirection channel (.file .appending)
    else if ← skipIf '|' then return .redirection channel (.file .replacing)
    else if ← skipIf '&' then return .redirection channel .channel
    else return .redirection channel (.file .writing)
  else
    skip
    let channel := channel.getD 0
    if ← skipIf '<' then return .redirection channel (.here (← skipIf '-'))
    else if ← skipIf '&' then return .redirection channel .channel
    else if ← skipIf '>' then return .redirection channel (.file .both)
    else return .redirection channel (.file .reading)

/-- Reads a token from the characters of the source. -/
def readToken (nested : Nested) (wordsAround : Surrounding) : Reader Token := do
  skipBlanks (← allSteps)
  let double (c : Char) : Reader Token := do
    skip
    if ← skipIf c then return .sign (String.ofList [c, c]) else return .sign (String.ofList [c])
  match ← peek with
  | none => return .ending
  | some '\n' =>
    skip
    return .lineBreak
  | some '&' => double '&'
  | some '|' => double '|'
  | some ';' => double ';'
  | some '(' =>
    skip
    return .sign "("
  | some ')' =>
    skip
    return .sign ")"
  | some _ =>
    let word ← readAllParts nested wordsAround
    let next ← peek
    if next = some '<' ∨ next = some '>' then
      match word with
      | [] => readRedirection none
      | [.text false [d]] =>
        if d.isDigit then readRedirection (some (d.toNat - 48)) else return .word word
      | word => return .word word
    else return .word word

/-- Passes over line breaks from a token on. -/
def skipBreaks (nested : Nested) : (steps : Nat) → Token → Reader Token
  | 0, t => return t
  | steps + 1, t => do
    match t with
    | .lineBreak =>
      readAwaited nested
      skipBreaks nested steps (← readToken nested .bare)
    | t => return t

/-- The text of the alias that a token is, if it has its meaning here. -/
def aliasText? : Token → Reader (Option (Raw × Raw))
  | .word [.text false cs] => do
    let s ← get
    if s.blocked.contains cs ∨ s.active.any (·.1 = cs) then return none
    else return (s.aliases.lookup cs).map fun text => (cs, text)
  | _ => return none

/-- Lets the text of an alias be read next. -/
def expandAlias (name text : Raw) : Reader Unit :=
  if text = [] then pure ()
  else
    let blank := text.getLast? = some ' ' || text.getLast? = some '\t'
    modify fun s => { s with
      rest := text ++ aliasEnd blank :: s.rest
      expanding := (name, s.rest.length) :: s.active }

/-- Reads the next token, or the one that was put back: after line breaks if `overBreaks` says so, as a
reserved word if it is one and `reserved` says so, and with an alias replaced if `aliasing` says so. -/
def nextToken (nested : Nested) (overBreaks reserved aliasing : Bool) : (steps : Nat) → Reader Token
  | 0 => fail "end of file unexpected"
  | steps + 1 => do
    let s ← get
    let t ← match s.pushed with
      | some t =>
        set { s with pushed := none }
        pure t
      | none => readToken nested .bare
    let t ← if overBreaks then skipBreaks nested (← allSteps) t else pure t
    let aliasing := aliasing || (← get).expectsAlias
    modify fun s => { s with expectsAlias := false }
    let t := if reserved then t.asKeyword else t
    match ← if aliasing then aliasText? t else pure none with
    | some (name, text) =>
      expandAlias name text
      nextToken nested overBreaks reserved aliasing steps
    | none => return t

/-- Reads the next token.  Where words may be reserved, they may be aliases, too. -/
def next (nested : Nested) (overBreaks reserved : Bool) : Reader Token := do
  nextToken nested overBreaks reserved reserved (← allSteps)

/-- Puts a token back. -/
def putBack (t : Token) : Reader Unit := modify fun s => { s with pushed := some t }

end Reader

end PlannerTrials.Host
