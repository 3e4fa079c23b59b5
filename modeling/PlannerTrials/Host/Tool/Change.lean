import PlannerTrials.Host.Tool.Basic

/-!
# Changing files

Listing folders and making, removing, copying and renaming what stands in them.
-/

namespace PlannerTrials.Host

open Files (FileTree Fault)

namespace Tool

/-- Names in order. -/
def sortedNames (names : List Files.Name) : List Raw :=
  ((names.map Raw.ofBytes).mergeSort fun a b => decide (String.ofList a ≤ String.ofList b))

/-- Lists the names in folders. -/
def ls : Tool :=
  withOptions ⟨"1aACdFR".toList.map fun c => (c, .nothing),
    [("all", "a", .nothing), ("almost-all", "A", .nothing), ("directory", "d", .nothing)]⟩ 2 fun i o =>
  let operands := if o.others = [] then [['.']] else o.others
  let operands := operands.mergeSort fun a b => decide (String.ofList a ≤ String.ofList b)
  let isFolder (file : Raw) : Bool := i.files.isFolder (path file) && !o.has "d"
  let missing := operands.filterMap fun file =>
    match i.files.look (path file) with
    | .error fault =>
      some (Written.errors (said i ("cannot access ".toList ++ quoted file ++ ": ".toList ++
        faultText fault)))
    | .ok _ => none
  let present := operands.filter fun file => (i.files.look (path file)).toOption.isSome
  let plain := present.filter fun file => !isFolder file
  let folders := present.filter isFolder
  let namesIn (folder : Raw) : List Raw :=
    let names := match i.files.list (path folder) with
      | .ok names => sortedNames names
      | .error _ => []
    if o.has "a" then [['.'], ['.', '.']] ++ names
    else if o.has "A" then names
    else names.filter fun n => n.head? ≠ some '.'
  let lines (names : List Raw) : Raw := names.flatMap fun n => n ++ ['\n']
  let headed := 1 < operands.length
  let listed := folders.foldl
    (fun (text : Raw) folder =>
      text ++ (if text ≠ [] then ['\n'] else []) ++
        (if headed then folder ++ [':', '\n'] else []) ++ lines (namesIn folder))
    (lines plain)
  { written := missing ++ [.output listed], code := if missing.isEmpty then 0 else 2 }

/-- Changes the files for each operand; what goes wrong is told. -/
def changing (i : ToolInput) (operands : List Raw) (change : FileTree → Raw → Except Raw FileTree) :
    ToolResult :=
  let (r, files) := operands.foldl
    (fun ((r, files) : ToolResult × FileTree) operand =>
      match change files operand with
      | .ok files => (r, files)
      | .error text => (r.complain (said i text) 1, files))
    ({}, i.files)
  { r with files := some files }

/-- Makes folders. -/
def mkdir : Tool :=
  withOptions ⟨[('p', .nothing), ('m', .value), ('v', .nothing)], [("parents", "p", .nothing)]⟩ 1
    fun i o =>
  if o.others = [] then misuse i "missing operand".toList 1
  else changing i o.others fun files folder =>
    if o.has "p" then
      match files.makeFolders (path folder) with
      | (.ok (), files) => .ok files
      | (.error fault, _) =>
        .error ("cannot create directory ".toList ++ quoted folder ++ ": ".toList ++ faultText fault)
    else
      match files.makeFolder (path folder) with
      | .ok files => .ok files
      | .error fault =>
        .error ("cannot create directory ".toList ++ quoted folder ++ ": ".toList ++ faultText fault)

/-- Removes files, and folders with what is in them if asked to. -/
def rm : Tool :=
  withOptions ⟨"dfirRv".toList.map fun c => (c, .nothing),
    [("force", "f", .nothing), ("recursive", "r", .nothing)]⟩ 1 fun i o =>
  let deep := o.has "r" || o.has "R"
  if o.others = [] then if o.has "f" then {} else misuse i "missing operand".toList 1
  else changing i o.others fun files file =>
    let told (text : Raw) : Except Raw FileTree :=
      .error ("cannot remove ".toList ++ quoted file ++ ": ".toList ++ text)
    match files.resolve false (path file) with
    | .error fault =>
      if o.has "f" ∧ (fault = Fault.notFound ∨ fault = Fault.notFolder) then .ok files
      else told (faultText fault)
    | .ok spot =>
      match spot.entry with
      | none => if o.has "f" then .ok files else told (faultText Fault.notFound)
      | some .folder => if deep then .ok (files.prune spot.location) else told (faultText Fault.isFolder)
      | some _ => .ok (files.erase spot.location)

/-- Removes empty folders. -/
def rmdir : Tool := withOptions ⟨[('p', .nothing)], [("parents", "p", .nothing)]⟩ 1 fun i o =>
  if o.others = [] then misuse i "missing operand".toList 1
  else changing i o.others fun files folder =>
    let told (text : Raw) : Except Raw FileTree :=
      .error ("failed to remove ".toList ++ quoted folder ++ ": ".toList ++ text)
    match files.look (path folder) with
    | .ok (l, .folder) =>
      if files.namesIn l = [] then .ok (files.erase l) else told "Directory not empty".toList
    | .ok _ => told (faultText Fault.notFolder)
    | .error fault => told (faultText fault)

/-- Makes files that are missing. -/
def touch : Tool := withOptions ⟨"acm".toList.map fun c => (c, .nothing), []⟩ 1 fun i o =>
  if o.others = [] then misuse i "missing file operand".toList 1
  else changing i o.others fun files file =>
    match files.look (path file) with
    | .ok _ => .ok files
    | .error fault =>
      if fault = Fault.notFound ∧ o.has "c" then .ok files
      else
        match files.write (path file) [] with
        | .ok files => .ok files
        | .error fault =>
          .error ("cannot touch ".toList ++ quoted file ++ ": ".toList ++ faultText fault)

/-- The target of a copy or a move: inside of the last operand if that is a folder. -/
def targetOf (files : FileTree) (source target : Raw) : Raw :=
  if files.isFolder (path target) then
    let name := ((source.reverse.dropWhile (· = '/')).takeWhile (· ≠ '/')).reverse
    target ++ (if target.getLast? = some '/' then [] else ['/']) ++ name
  else target

/-- Copies or moves operands to the last one. -/
def transfer (i : ToolInput) (operands : List Raw)
    (move : FileTree → Raw → Raw → Except Raw FileTree) : ToolResult :=
  match operands.getLast? with
  | none => misuse i "missing file operand".toList 1
  | some target =>
    if operands.length = 1 then
      misuse i ("missing destination file operand after ".toList ++ quoted target) 1
    else if 2 < operands.length ∧ ¬i.files.isFolder (path target) then
      .ofErrors (said i ("target ".toList ++ quoted target ++ ": ".toList ++
        (match i.files.look (path target) with
          | .error fault => faultText fault
          | .ok _ => "Not a directory".toList))) 1
    else changing i operands.dropLast fun files source => move files source (targetOf files source target)

/-- Copies files. -/
def cp : Tool := withOptions ⟨"fip".toList.map fun c => (c, .nothing), []⟩ 1 fun i o =>
  transfer i o.others fun files source target =>
    match files.look (path source) with
    | .error fault => .error ("cannot stat ".toList ++ quoted source ++ ": ".toList ++ faultText fault)
    | .ok (_, .folder) =>
      .error ("-r not specified; omitting directory ".toList ++ quoted source)
    | .ok (l, _) =>
      if (files.look (path target)).toOption.map (·.1) = some l then
        .error (quoted source ++ " and ".toList ++ quoted target ++ " are the same file".toList)
      else
        match (files.read (path source)).bind fun content => files.write (path target) content with
        | .ok files => .ok files
        | .error fault =>
          .error ("cannot create regular file ".toList ++ quoted target ++ ": ".toList ++
            faultText fault)

/-- Moves files. -/
def mv : Tool := withOptions ⟨"finT".toList.map fun c => (c, .nothing), []⟩ 1 fun i o =>
  transfer i o.others fun files source target =>
    match files.resolve false (path source) with
    | .error fault => .error ("cannot stat ".toList ++ quoted source ++ ": ".toList ++ faultText fault)
    | .ok ⟨_, none, _⟩ =>
      .error ("cannot stat ".toList ++ quoted source ++ ": ".toList ++ faultText Fault.notFound)
    | .ok spot =>
      match files.resolve false (path target) with
      | .ok ⟨there, _, _⟩ =>
        if there = spot.location then
          .error (quoted source ++ " and ".toList ++ quoted target ++ " are the same file".toList)
        else
          let moved := files.entries.filterMap fun (l, e) =>
            if spot.location.isPrefixOf l then some (there ++ l.drop spot.location.length, e) else none
          let rest := (files.prune spot.location).prune there
          .ok { rest with entries := rest.entries ++ moved }
      | .error fault =>
        .error ("cannot move ".toList ++ quoted source ++ " to ".toList ++ quoted target ++
          ": ".toList ++ faultText fault)

/-- Makes links. -/
def ln : Tool := withOptions ⟨"sfnT".toList.map fun c => (c, .nothing), []⟩ 1 fun i o =>
  transfer i o.others fun files source target =>
    match files.resolve false (path target) with
    | .ok ⟨l, entry, _⟩ =>
      if entry.isSome ∧ ¬o.has "f" then
        .error ("failed to create symbolic link ".toList ++ quoted target ++ ": File exists".toList)
      else .ok (files.put l (.link (Raw.toBytes source)))
    | .error fault =>
      .error ("failed to create symbolic link ".toList ++ quoted target ++ ": ".toList ++
        faultText fault)

/-- The writing of a text to one of the outputs, if a path stands for one. -/
def output? (file text : Raw) : Option Written :=
  match String.ofList file with
  | "/dev/stdout" | "/dev/fd/1" => some (.output text)
  | "/dev/stderr" | "/dev/fd/2" => some (.errors text)
  | _ => none

/-- Copies its input to the output and to files. -/
def tee : Tool := withOptions ⟨[('a', .nothing), ('i', .nothing)], [("append", "a", .nothing)]⟩ 1
    fun i o =>
  match i.input with
  | .error fault =>
    let closed := if fault = .system 9 then said i ("standard input: ".toList ++ faultText fault) else []
    .ofErrors (said i ("read error: ".toList ++ faultText fault) ++ closed) 1
  | .ok text =>
    let outputs := o.others.filterMap fun file => output? file text
    let r := changing i (o.others.filter fun file => (output? file text).isNone) fun files file =>
      let before := if o.has "a" then (files.read (path file)).toOption.getD [] else []
      match files.write (path file) (before ++ Raw.toBytes text) with
      | .ok files => .ok files
      | .error fault => .error (file ++ ": ".toList ++ faultText fault)
    { r with written := r.written ++ .output text :: outputs }

end Tool

end PlannerTrials.Host
