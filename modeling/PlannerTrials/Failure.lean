import PlannerTrials.Files.Fault

/-!
# Failures

Everything that can stop a pass or a report, by cause.  The category of a failure says which part
of the work it belongs to, and the category alone decides how severe it is: what is wrong with the
configuration or with the benchmark files shows before anything has been run or written, and can
be mended and tried again; what goes wrong with the result table may have cost a whole pass.
-/

namespace PlannerTrials

/-- Why a pass or a report stopped. -/
inductive Failure where
  /-- A result table cannot be read or written. -/
  | table (message : String)
  /-- A file cannot be read or written. -/
  | file (fault : Files.Fault)
  /-- A report cannot be written as a document. -/
  | document (message : String)
  /-- The configuration is unusable as a whole. -/
  | config (message : String)
  /-- A part of the configuration is unusable. -/
  | configPart (field message : String)
  /-- A value in the configuration is not allowed. -/
  | configValue (field value reason : String)
  /-- The configuration lacks an entry. -/
  | configMissing (field : String)
  /-- A domain has no folder. -/
  | domainNotFound (domain path : String)
  /-- A domain has no description. -/
  | descriptionMissing (domain path : String)
  /-- The folder of a domain cannot be listed. -/
  | domainUnreadable (domain path : String) (fault : Files.Fault)
  /-- The rows of a result table do not fit together. -/
  | resultTable (message : String)
  deriving DecidableEq, Repr

namespace Failure

/-- Splits a text before the last place at which a mark stands; the mark belongs to neither part. -/
def splitAtLast? (mark : List Char) : List Char → Option (List Char × List Char)
  | [] => none
  | c :: cs =>
    match splitAtLast? mark cs with
    | some (before, after) => some (c :: before, after)
    | none => if mark.isPrefixOf (c :: cs) then some ([], (c :: cs).drop mark.length) else none

/-- The lines and columns that a position can name lie below this number. -/
def positionLimit : Nat := 0x10000000000000000

/-- The text before the position at the end of a text, and the line and the column of the position. -/
def splitPosition? (text : List Char) : Option (List Char × Nat × Nat) :=
  match splitAtLast? " at line ".toList text with
  | none => none
  | some (before, after) =>
    let line := after.takeWhile Number.isDigit
    let between := " column ".toList
    let rest := after.drop line.length
    let column := rest.drop between.length
    if line ≠ [] ∧ between.isPrefixOf rest ∧ column ≠ [] ∧ column.all Number.isDigit ∧
        Number.digitsValue 0 line < positionLimit ∧ Number.digitsValue 0 column < positionLimit then
      some (before, Number.digitsValue 0 line, Number.digitsValue 0 column)
    else none

/-- The text of what is wrong with a document.  A position at its end is told in plain numbers, and
not at all if its line is zero. -/
def documentText (text : String) : String :=
  match splitPosition? text.toList with
  | none => text
  | some (before, line, column) =>
    String.ofList before ++
      if line = 0 then ""
      else " at line " ++ Number.numeral line ++ " column " ++ Number.numeral column

/-- The part of the work that a failure belongs to. -/
inductive Category where
  | configuration
  | corpus
  | output
  deriving DecidableEq, Repr

/-- How much a failure may have cost. -/
inductive Severity where
  | high
  | critical
  deriving DecidableEq, Repr

/-- The name of a category. -/
def Category.name : Category → String
  | .configuration => "Configuration"
  | .corpus => "Corpus"
  | .output => "Output"

/-- The name of a severity. -/
def Severity.name : Severity → String
  | .high => "High"
  | .critical => "Critical"

/-- The severity of all failures of a category. -/
def Category.severity : Category → Severity
  | .configuration | .corpus => .high
  | .output => .critical

/-- The part of the work that a failure belongs to. -/
def category : Failure → Category
  | .config .. | .configPart .. | .configValue .. | .configMissing .. => .configuration
  | .domainNotFound .. | .descriptionMissing .. | .domainUnreadable .. => .corpus
  | .table .. | .file .. | .document .. | .resultTable .. => .output

/-- How much a failure may have cost. -/
def severity (f : Failure) : Severity := f.category.severity

/-- Whether a failure shows before anything has been run. -/
def isConfigurationError (f : Failure) : Bool :=
  f.category = .configuration ∨ f.category = .corpus

/-- What the failure is. -/
def message : Failure → String
  | .table m => "CSV processing error: " ++ m
  | .file fault => "IO error: " ++ fault.message
  | .document m => "Serialization error: " ++ m
  | .config m => "Configuration error: " ++ m
  | .configPart field m => "Configuration validation failed for '" ++ field ++ "': " ++ m
  | .configValue field value reason =>
    "Invalid value '" ++ value ++ "' for '" ++ field ++ "': " ++ reason
  | .configMissing field => "Missing required configuration: " ++ field
  | .domainNotFound domain path =>
    "Domain '" ++ domain ++ "' not found: " ++ path ++ " is not a directory"
  | .descriptionMissing domain path =>
    "Domain '" ++ domain ++ "' has no description file at " ++ path
  | .domainUnreadable domain path fault =>
    "Cannot read domain '" ++ domain ++ "' at " ++ path ++ ": " ++ fault.message
  | .resultTable m => "Result table error: " ++ m

/-- What lies behind the failure, where it has a cause of its own. -/
def source? : Failure → Option String
  | .table m | .document m => some m
  | .file fault | .domainUnreadable _ _ fault => some fault.message
  | _ => none

/-- What may help. -/
def suggestion : Failure → String
  | .domainNotFound _ path =>
    "Check \x60benchmarks_dir\x60 and \x60domains\x60 in the config; expected a directory at " ++
      path
  | .descriptionMissing _ path =>
    "Add the domain description at " ++ path ++ " or set \x60domain_file\x60 to the right name"
  | .domainUnreadable _ path _ => "Check that " ++ path ++ " is readable by the current user"
  | .configMissing field => "Add \x60" ++ field ++ "\x60 to the configuration file"
  | .configPart field _ | .configValue field _ _ =>
    "Fix the value of \x60" ++ field ++ "\x60 in the configuration file"
  | .config _ => "Check the configuration file syntax"
  | .table _ | .resultTable _ => "Check that the result file is a valid comparison CSV"
  | .file _ => "Check file permissions and free disk space"
  | .document _ => "Report this as a bug"

/-- The failure as it is told to the user. -/
def friendly (f : Failure) : String :=
  let opening :=
    match f.category with
    | .configuration => "Invalid configuration: "
    | .corpus => "Benchmark corpus problem: "
    | .output => "Could not handle result table: "
  opening ++ f.message

end Failure

end PlannerTrials
