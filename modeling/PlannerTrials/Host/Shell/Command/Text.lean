import PlannerTrials.Host.Shell.Command.Basic
import PlannerTrials.Host.Condition

/-!
# Commands that print, test and move

The commands of the shell that exist as programs too, and the ones for the working folder and for the
rights of new files.
-/

namespace PlannerTrials.Host

namespace Run

/-- Prints its arguments. -/
def echoWords : Action := fun _ _ arguments => do
  let (ended, words) := match arguments with
    | ['-', 'n'] :: words => (false, words)
    | words => (true, words)
  let text := Tool.spaced words
  let (text, stopped) := Format.unescape false (text.length + 1) text
  finish (text ++ if ended && !stopped then ['\n'] else []) 0

/-- Prints its arguments in a format. -/
def printFormat : Action := fun _ _ arguments => do
  let (_, arguments) ← flagsOf "" arguments
  match arguments with
  | [] => raise "usage: printf format [arg ...]".toList
  | format :: arguments =>
    let (pieces, code) := Format.print .shell format arguments
    pieces.forM fun piece => do
      match piece with
      | .text _ => pure ()
      | .complaint cs => warn cs
    finish (pieces.flatMap fun
      | .text cs => cs
      | .complaint _ => []) code

/-- Tests a condition. -/
def testWords : Action := fun _ _ arguments => do
  match Condition.holds (← get).files (arguments.length + 1) arguments with
  | .ok holds => return if holds then 0 else 1
  | .error text => raise text

/-- Tests a condition before a closing bracket. -/
def testBracketed : Action := fun run mode arguments => do
  if arguments.getLast? = some [']'] then testWords run mode arguments.dropLast
  else raise "missing ]".toList

/-! ## The working folder -/

/-- A path from the root that a path means from a folder, as far as points go. -/
def pathFrom (folder path : Raw) : Raw :=
  let start : List Raw := if path.head? = some '/' then [] else folder.splitOn '/'
  let names := (path.splitOn '/').foldl
    (fun names name =>
      if name = ['.'] then names else if name = ['.', '.'] then names.dropLast else names ++ [name])
    start
  '/' :: ['/'].intercalate (names.filter (· ≠ []))

/-- Goes to a folder; the result says whether there is one. -/
def goTo (path : Raw) (physical : Bool) : Run Bool := do
  let sh ← get
  let target := if physical then path else pathFrom sh.folder path
  match sh.files.look (Raw.toString target) with
  | .ok (location, .folder) =>
    let folder := if physical then '/' :: ['/'].intercalate (location.map Raw.ofBytes) else target
    set { sh with files := { sh.files with workingFolder := location }, folder }
    modify fun now => now.put { name := "OLDPWD".toList, value := some sh.folder, exported := true }
    modify fun now => now.put { name := "PWD".toList, value := some folder, exported := true }
    return true
  | _ => return false

/-- The folders in which the folder of a relative path is looked for. -/
def searchFolders (path : Raw) : Run (List Raw) := do
  let pointed := match path with
    | ['.'] | ['.', '.'] | '.' :: '/' :: _ | '.' :: '.' :: '/' :: _ | '/' :: _ => true
    | _ => false
  match (← get).stored? "CDPATH".toList with
  | some folders => return if pointed then [] else folders.splitOn ':'
  | none => return []

/-- Changes the working folder. -/
def changeFolder : Action := fun _ _ arguments => do
  let (flags, arguments) ← flagsOf "LP" arguments
  let physical := flags.getLast? = some 'P'
  let sh ← get
  let (path, printed) : Raw × Bool := match arguments with
    | [] => ((sh.stored? "HOME".toList).getD [], false)
    | ['-'] :: _ => ((sh.stored? "OLDPWD".toList).getD [], true)
    | path :: _ => (path, false)
  let path := if path = [] then ['.'] else path
  let found := (← searchFolders path).find? fun folder =>
    sh.files.isFolder (Raw.toString (if folder = [] then path else folder ++ '/' :: path))
  let (target, printed) := match found with
    | none | some [] => (path, printed)
    | some folder => (folder ++ '/' :: path, true)
  if ← goTo target physical then
    if printed then finish ((← get).folder ++ ['\n']) 0 else return 0
  else raise ("can't cd to ".toList ++ path)

/-- Prints the working folder. -/
def printFolder : Action := fun _ _ arguments => do
  let (flags, _) ← flagsOf "LP" arguments
  let sh ← get
  let physical := '/' :: ['/'].intercalate (sh.files.workingFolder.map Raw.ofBytes)
  finish ((if flags.getLast? = some 'P' then physical else sh.folder) ++ ['\n']) 0

/-! ## Rights of new files -/

/-- The rights of the three classes of users that a mask leaves. -/
def maskText (mask : Nat) : Raw :=
  let rights (n : Nat) : Raw :=
    (if n &&& 4 = 0 then ['r'] else []) ++ (if n &&& 2 = 0 then ['w'] else []) ++
      (if n &&& 1 = 0 then ['x'] else [])
  "u=".toList ++ rights (mask / 64 % 8) ++ ",g=".toList ++ rights (mask / 8 % 8) ++ ",o=".toList ++
    rights (mask % 8) ++ ['\n']

/-- The mask after a change in letters, if that can be read. -/
def changedMask? (mask : Nat) (change : Raw) : Option Nat := do
  let who := change.takeWhile "ugoa".toList.contains
  let rest := change.dropWhile "ugoa".toList.contains
  match rest with
  | operator :: letters =>
    if !("+-=".toList.contains operator) ∨ letters.any (fun c => !"rwx".toList.contains c) then none
    else
      let rights := (if letters.contains 'r' then 4 else 0) + (if letters.contains 'w' then 2 else 0) +
        (if letters.contains 'x' then 1 else 0)
      let all := who.isEmpty || who.contains 'a'
      let classes := (if all || who.contains 'u' then 64 else 0) +
        (if all || who.contains 'g' then 8 else 0) + (if all || who.contains 'o' then 1 else 0)
      match operator with
      | '+' => some (mask &&& (511 - rights * classes))
      | '-' => some (mask ||| rights * classes)
      | _ => some ((mask &&& (511 - 7 * classes)) ||| ((7 - rights) * classes))
  | [] => none

/-- Sets the rights that new files do not get, or prints them. -/
def setMask : Action := fun _ _ arguments => do
  let (flags, arguments) ← flagsOf "S" arguments
  let mask := (← get).mask
  match arguments with
  | [] =>
    let octal := [mask / 512 % 8, mask / 64 % 8, mask / 8 % 8, mask % 8].flatMap Number.digits
    finish (if flags.contains 'S' then maskText mask else octal ++ ['\n']) 0
  | text :: _ =>
    if text.head?.any Number.isDigit then
      if text.all fun c => '0' ≤ c && c ≤ '7' then
        let n := text.foldl (fun n c => 8 * n + (c.toNat - '0'.toNat)) 0
        modify fun sh => { sh with mask := n % 512 }
        return 0
      else raise ("Illegal number: ".toList ++ text)
    else
      match (text.splitOn ',').foldlM changedMask? mask with
      | some mask =>
        modify fun sh => { sh with mask }
        return 0
      | none => raise ("Illegal mode: ".toList ++ text)

/-- Prints a limit of what processes may use; there is none. -/
def printLimit : Action := fun _ _ arguments => do
  let _ ← flagsOf "HSatfdsmcpnvwrl" arguments
  finish "unlimited\n".toList 0

end Run

end PlannerTrials.Host
