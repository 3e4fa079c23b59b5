import PlannerTrials.Host.Script.Token

/-!
# The grammar of scripts

Lists of pipelines, joined by semicolons, line breaks and the two conditional signs; pipelines of
commands; and commands, which are simple or start with a reserved word.

A script is read one line at a time, or more lines where a command goes on, so that what stands before a
fault has run when the fault is noticed.
-/

namespace PlannerTrials.Host

namespace Reader

/-- The commands of the shell that change the shell itself; no function has the name of one. -/
def specialCommands : List String :=
  [".", ":", "break", "continue", "eval", "exec", "exit", "export", "local", "readonly", "return",
    "set", "shift", "times", "trap", "unset"]

/-- How far a list goes. -/
inductive Extent where
  /-- One line of the script. -/
  | line
  /-- Up to what ends it, with at least one command. -/
  | filled
  /-- Up to what ends it. -/
  | any
  deriving DecidableEq

/-- Reads the word after a sign of redirection. -/
def readTarget (nested : Nested) (channel : Nat) (sign : RedirectSign) : Reader Redirect := do
  let word (around : Surrounding) : Reader Word := do
    let s ← get
    let t ← match s.pushed with
      | some t =>
        set { s with pushed := none }
        pure t
      | none => readToken nested around
    match t with
    | .word w => return w
    | t => unexpected t none
  match sign with
  | .file mode => return .file channel mode (← word .bare)
  | .channel => return .channel channel (← word .bare)
  | .here stripped =>
    let mark ← word .endMark
    let number := (← get).nextText
    modify fun s => { s with
      nextText := number + 1
      awaited := s.awaited ++ [⟨number, Word.bare mark, stripped, mark.any Word.partQuoted⟩] }
    return .here channel number

/-- Reads redirections. -/
def readRedirects (nested : Nested) : (steps : Nat) → Reader (List Redirect)
  | 0 => return []
  | steps + 1 => do
    match ← next nested false true with
    | .redirection channel sign =>
      let redirect ← readTarget nested channel sign
      return redirect :: (← readRedirects nested steps)
    | t =>
      putBack t
      return []

/-- What has been read of a simple command, the last piece first. -/
structure Pieces where
  assignments : List (Raw × Word) := []
  words : List Word := []
  redirects : List Redirect := []

/-- Reads the pieces of a simple command, or the name of a function with its brackets: then the second
result is that name.  Up to the first word that is no assignment, a word may be an alias. -/
def readPieces (nested : Nested) : (steps : Nat) → Pieces → Reader (Pieces × Option Raw)
  | 0, p => return (p, none)
  | steps + 1, p => do
    match ← nextToken nested false false p.words.isEmpty (← allSteps) with
    | .word w =>
      match Word.assignment? w with
      | some assignment =>
        if p.words.isEmpty then
          readPieces nested steps { p with assignments := assignment :: p.assignments }
        else readPieces nested steps { p with words := w :: p.words }
      | none => readPieces nested steps { p with words := w :: p.words }
    | .redirection channel sign =>
      let redirect ← readTarget nested channel sign
      readPieces nested steps { p with redirects := redirect :: p.redirects }
    | t =>
      match t, p with
      | .sign "(", ⟨[], [name], []⟩ =>
        match ← next nested false false with
        | .sign ")" =>
          match Word.plain? name with
          | some name =>
            if Word.isName name ∧ ¬specialCommands.contains (String.ofList name) then
              return (p, some name)
            else fail "Bad function name"
          | none => fail "Bad function name"
        | t => unexpected t (some "\")\"")
      | t, p =>
        putBack t
        return (p, none)

/-- A command with its redirections. -/
def redirected (line : Nat) (redirects : List Redirect) (script : Script) : Script :=
  match redirects, script with
  | [], script => script
  | redirects, .inside line inner body => .inside line (inner ++ redirects) body
  | redirects, script => .redirected line redirects script

/-- The title of a reserved word or a sign. -/
def titled (text : String) : String := "\"" ++ text ++ "\""

/-- Asks for a reserved word or a sign. -/
def expect (nested : Nested) (title : String) : Reader Unit := do
  let t ← next nested false true
  if t.title ≠ title then unexpected t (some title)

/-- Reads words up to a token that is none, which is the second result. -/
def readWords (nested : Nested) : (steps : Nat) → Reader (List Word × Token)
  | 0 => return ([], .ending)
  | steps + 1 => do
    match ← next nested false false with
    | .word w =>
      let (words, t) ← readWords nested steps
      return (w :: words, t)
    | t => return ([], t)

/-- Reads the patterns of a branch from a token on, and their closing bracket.  Any token may stand for
a pattern; one that is no word is an empty one. -/
def readPatterns (nested : Nested) : (steps : Nat) → Token → Reader (List Word)
  | 0, t => unexpected t none
  | steps + 1, t => do
    let w := t.word?.getD []
    match ← next nested false false with
    | .sign "|" => return w :: (← readPatterns nested steps (← next nested false false))
    | .sign ")" => return [w]
    | t => unexpected t (some (titled ")"))

/-- The readers for the parts of the grammar that contain each other. -/
structure Grammar where
  list : Extent → Reader (Option Script)
  command : Reader Script

/-- Reads a list that holds at least one command; if the source ends instead, the token is missing that
may close the list. -/
def filledList (nested : Nested) (grammar : Grammar) (closer : String) : Reader Script := do
  match ← grammar.list .filled with
  | some script => return script
  | none => unexpected (← next nested false true) (some (titled closer))

/-- Reads the branches of a selection up to its end. -/
def readBranches (nested : Nested) (grammar : Grammar) : (steps : Nat) →
    Reader (List (List Word × Option Script))
  | 0 => return []
  | steps + 1 => do
    match ← nextToken nested true true false (← allSteps) with
    | .keyword "esac" => return []
    | t =>
      let t ← match t with
        | .sign "(" => next nested false false
        | t => pure t
      let patterns ← readPatterns nested (← allSteps) t
      let body ← grammar.list .any
      match ← nextToken nested true true false (← allSteps) with
      | .keyword "esac" => return [(patterns, body)]
      | .sign ";;" => return (patterns, body) :: (← readBranches nested grammar steps)
      | t => unexpected t (some (titled ";;"))

/-- Reads what follows a condition: the branch for it and the ones for other conditions. -/
def readChoice (nested : Nested) (grammar : Grammar) : (steps : Nat) → Reader Script
  | 0 => fail "end of file unexpected"
  | steps + 1 => do
    let condition ← filledList nested grammar "then"
    expect nested (titled "then")
    let yes ← filledList nested grammar "fi"
    match ← next nested false true with
    | .keyword "elif" => return .choose condition yes (some (← readChoice nested grammar steps))
    | .keyword "else" => return .choose condition yes (some (← filledList nested grammar "fi"))
    | t =>
      putBack t
      return .choose condition yes none

/-- Reads a command. -/
def readCommand (nested : Nested) (grammar : Grammar) : Reader Script := do
  let line := (← get).line
  let finish (script : Script) : Reader Script := do
    return redirected line (← readRedirects nested (← allSteps)) script
  let closed (script : Script) (title : String) : Reader Script := do
    expect nested (titled title)
    finish script
  let loop (untilTrue : Bool) : Reader Script := do
    let condition ← filledList nested grammar "do"
    expect nested (titled "do")
    let body ← filledList nested grammar "done"
    closed (.loop untilTrue condition body) "done"
  let simple (t : Token) : Reader Script := do
    putBack t
    let line := (← get).line
    match ← readPieces nested (← allSteps) {} with
    | (_, some name) =>
      let line := (← get).line
      putBack (← next nested true true)
      return .function line name (← grammar.command)
    | (p, none) =>
      return .simple line p.assignments.reverse p.words.reverse p.redirects.reverse
  match ← next nested false true with
  | .keyword "if" => closed (← readChoice nested grammar (← allSteps)) "fi"
  | .keyword "while" => loop false
  | .keyword "until" => loop true
  | .keyword "for" =>
    match ← next nested false false with
    | .word [.text false name] =>
      if ¬Word.isName name then fail "Bad for loop variable"
      else
        let words ← match ← next nested true true with
          | .keyword "in" => do
            let (words, t) ← readWords nested (← allSteps)
            match t with
            | .lineBreak | .sign ";" => pure words
            | t => unexpected t none
          | t => do
            match t with
            | .sign ";" => pure ()
            | t => putBack t
            pure [[.parameter true ['@'] .plain false []]]
        match ← next nested true true with
        | .keyword "do" =>
          let body ← filledList nested grammar "done"
          closed (.each line name words body) "done"
        | t => unexpected t (some (titled "do"))
    | _ => fail "Bad for loop variable"
  | .keyword "case" =>
    match ← next nested false false with
    | .word w =>
      match ← next nested true true with
      | .keyword "in" => finish (.select line w (← readBranches nested grammar (← allSteps)))
      | t => unexpected t (some (titled "in"))
    | t => unexpected t (some "word")
  | .sign "(" => closed (.inside line [] (← filledList nested grammar ")")) ")"
  | .keyword "\x7b" => closed (← filledList nested grammar "\x7d") "\x7d"
  | .word w => simple (.word w)
  | .redirection channel sign => simple (.redirection channel sign)
  | t => unexpected t none

/-- Reads the stages of a pipeline after its first one. -/
def readStages (nested : Nested) (grammar : Grammar) : (steps : Nat) → Reader (List Script)
  | 0 => return []
  | steps + 1 => do
    match ← next nested false false with
    | .sign "|" =>
      putBack (← next nested true true)
      let stage ← grammar.command
      return stage :: (← readStages nested grammar steps)
    | t =>
      putBack t
      return []

/-- Reads a pipeline. -/
def readPipeline (nested : Nested) (grammar : Grammar) : Reader Script := do
  let negated ← match ← next nested false false with
    | .keyword "!" => do
      putBack (← next nested false true)
      pure true
    | t => do
      putBack t
      pure false
  let first ← grammar.command
  let others ← readStages nested grammar (← allSteps)
  let script := if others.isEmpty then first else .piped (first :: others)
  return if negated then .negated script else script

/-- Reads the pipelines after conditional signs. -/
def readConditions (nested : Nested) (grammar : Grammar) : (steps : Nat) → Script → Reader Script
  | 0, first => return first
  | steps + 1, first => do
    let second : Reader Script := do
      putBack (← next nested true true)
      readPipeline nested grammar
    match ← next nested false false with
    | .sign "&&" => readConditions nested grammar steps (.andThen first (← second))
    | .sign "||" => readConditions nested grammar steps (.orElse first (← second))
    | t =>
      putBack t
      return first

/-- Reads a list after the script that has been read of it. -/
def readList (nested : Nested) (grammar : Grammar) (extent : Extent) : (steps : Nat) →
    Option Script → Reader (Option Script)
  | 0, before => return before
  | steps + 1, before => do
    let atEnd : Reader (Option Script) := do
      readAwaited nested
      putBack .ending
      return before
    match ← next nested (extent ≠ .line) true with
    | .lineBreak =>
      readAwaited nested
      return before
    | .ending => atEnd
    | t =>
      putBack t
      let mayEnd := extent = .any ∨ (extent = .filled ∧ before.isSome)
      if mayEnd ∧ t.endsList then return before
      else
        let line := (← get).line
        let first ← readPipeline nested grammar
        let script ← readConditions nested grammar (← allSteps) first
        let t ← next nested false false
        let script := match t with
          | .sign "&" => .beside line script
          | _ => script
        let all := match before with
          | none => script
          | some before => .sequence before script
        match t with
        | .ending =>
          readAwaited nested
          putBack .ending
          return some all
        | .lineBreak =>
          putBack t
          readList nested grammar extent steps (some all)
        | .sign "&" | .sign ";" => readList nested grammar extent steps (some all)
        | t =>
          if extent = .line then unexpected t none
          else
            putBack t
            return some all

mutual

/-- Reads a list with so many levels inside of it. -/
def listWithin : (levels : Nat) → Extent → Reader (Option Script)
  | 0, _ => fail "end of file unexpected"
  | levels + 1, extent => do
    let nested : Nested :=
      ⟨listWithin levels .any, bracketedWithin levels, partsWithin levels⟩
    readList nested ⟨listWithin levels, commandWithin levels⟩ extent (← allSteps) none

/-- Reads a command with so many levels inside of it. -/
def commandWithin : (levels : Nat) → Reader Script
  | 0 => fail "end of file unexpected"
  | levels + 1 => do
    let nested : Nested :=
      ⟨listWithin levels .any, bracketedWithin levels, partsWithin levels⟩
    readCommand nested ⟨listWithin levels, commandWithin levels⟩

/-- Reads a list and its closing bracket with so many levels inside of it. -/
def bracketedWithin : (levels : Nat) → Reader (Option Script)
  | 0 => fail "end of file unexpected"
  | levels + 1 => do
    let nested : Nested :=
      ⟨listWithin levels .any, bracketedWithin levels, partsWithin levels⟩
    let script ← listWithin levels .any
    expect nested (titled ")")
    return script

/-- Reads parts with so many levels inside of them. -/
def partsWithin : (levels : Nat) → Surrounding → Reader Word
  | 0, _ => fail "end of file unexpected"
  | levels + 1, around => do
    let nested : Nested :=
      ⟨listWithin levels .any, bracketedWithin levels, partsWithin levels⟩
    readAllParts nested around

end

end Reader

namespace Source

/-- Reads one line of a script, or more lines where a command goes on; there is nothing at the end
of the source, and a line may hold no command. -/
def readLine (source : Source) : Except SyntaxFault (Option (Option Script) × Source) :=
  let levels := source.aliases.foldl (fun n a => n + a.2.length + 1) (source.rest.length + 4)
  match (Reader.listWithin levels .line).run { source with pushed := none } with
  | .error fault => .error fault
  | .ok (script, rest) =>
    let ended := match rest.pushed with
      | some .ending => true
      | _ => false
    .ok (if script.isNone && ended then none else some script, rest)

/-- The source of a text. -/
def ofText (text : Raw) (line nextText : Nat) : Source := { rest := text, line, nextText }

/-- The source of a text in a file, where NUL counts for nothing and lines may be shown. -/
def ofFile (text : Raw) : Source :=
  let text := text.filter (· ≠ '\x00')
  { ofText text 1 0 with unshown := text }

/-- The whole lines of a text that have been begun when so much of it is unread, and what follows
them. -/
def splitRead (unread : Nat) (text : Raw) : Raw × Raw :=
  let read := text.take (text.length - unread)
  let rest := text.drop (text.length - unread)
  if read = [] ∨ read.getLast? = some '\n' then (read, rest)
  else
    let more := rest.takeWhile (· ≠ '\n')
    (read ++ rest.take (more.length + 1), rest.drop (more.length + 1))

end Source

end PlannerTrials.Host
