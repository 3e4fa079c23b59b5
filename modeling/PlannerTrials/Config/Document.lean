import PlannerTrials.Config.Basic
import PlannerTrials.Failure
import PlannerTrials.Toml.Document

/-!
# A configuration as a document

Every entry of a configuration may be missing and then has its default, but a solver needs its
program.  An entry that is there must have exactly the kind of value that belongs to it: no value is
turned into another kind.  Other entries do not count, provided that their numbers have a size that
can be represented.

A solver may also be written as an array: the program, then the arguments, then the folder to start
in; what follows does not count.

What is told of a document that describes no configuration depends on the document and on nothing else.
The wording is left open: `parse` takes it as a function of the document.
-/

namespace PlannerTrials

open Toml (Value Table)

/-- Whether every entry that has no meaning here can be passed over. -/
def ignorable (known : List String) (table : Table) : Bool :=
  table.all fun (key, value) => known.contains key || value.representable

/-- The value of an entry, or its default if it is missing. -/
def entryOr {α : Type} (table : Table) (key : String) (default : α) (read : Value → Option α) :
    Option α :=
  match table.lookup key with
  | none => some default
  | some value => read value

/-- A text. -/
def readText : Value → Option String
  | .string text => some text
  | _ => none

/-- A list of texts. -/
def readTexts : Value → Option (List String)
  | .array items => items.mapM readText
  | _ => none

/-- The sizes of 64 bits lie below this one. -/
def sizeLimit : Int := 0x10000000000000000

/-- A size that fits into a word of 64 bits. -/
def readSize : Value → Option Nat
  | .integer n => if 0 ≤ n ∧ n < sizeLimit then some n.toNat else none
  | _ => none

/-- How to launch a solver, from a table or an array. -/
def LaunchSpec.ofValue? : Value → Option LaunchSpec
  | .table table => do
    let program ← (table.lookup "program").bind readText
    let arguments ← entryOr table "args" [] readTexts
    let workingFolder ← entryOr table "working_dir" none fun v => (readText v).map some
    if ignorable ["program", "args", "working_dir"] table then
      some { program, arguments, workingFolder }
    else none
  | .array items => do
    let program ← (items[0]?).bind readText
    let arguments ← match items[1]? with
      | none => some []
      | some value => readTexts value
    let workingFolder ← match items[2]? with
      | none => some none
      | some value => (readText value).map some
    some { program, arguments, workingFolder }
  | _ => none

/-- The solvers, from a table with one entry for each. -/
def readSolvers : Value → Option (List (String × LaunchSpec))
  | .table table => table.mapM fun (name, value) =>
    (LaunchSpec.ofValue? value).map fun spec => (name, spec)
  | _ => none

namespace Config

/-- The names of the entries. -/
def entryNames : List String :=
  ["benchmarks_dir", "domains", "sample_size", "domain_file", "problem_prefix",
    "problem_extension", "output_path", "solvers"]

/-- The configuration that a table describes. -/
def ofTable? (table : Table) : Option Config := do
  let default : Config := {}
  let benchmarksFolder ← entryOr table "benchmarks_dir" default.benchmarksFolder readText
  let domains ← entryOr table "domains" default.domains readTexts
  let sampleSize ← entryOr table "sample_size" default.sampleSize readSize
  let descriptionName ← entryOr table "domain_file" default.descriptionName readText
  let problemStart ← entryOr table "problem_prefix" default.problemStart readText
  let problemEnd ← entryOr table "problem_extension" default.problemEnd readText
  let outputPath ← entryOr table "output_path" default.outputPath readText
  let solvers ← entryOr table "solvers" default.solvers readSolvers
  if ignorable entryNames table then
    some { benchmarksFolder, domains, sampleSize, descriptionName, problemStart, problemEnd,
           outputPath, solvers }
  else none

/-- The failure of a document that describes no configuration, with what is wrong with it. -/
def unreadable (complaint : String) : Failure :=
  .configPart "toml_parsing" ("TOML parsing error: " ++ complaint)

/-- The configuration that a document describes, with its references to the environment as they are
written.  Of a document that describes none, `complaint` tells what is wrong. -/
def parse (complaint : String → String) (document : String) : Except Failure Config :=
  match (Toml.read document).bind ofTable? with
  | some config => .ok config
  | none => .error (unreadable (complaint document))

end Config

end PlannerTrials
