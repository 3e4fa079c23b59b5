import PlannerTrials.Csv.Print
import PlannerTrials.Failure
import PlannerTrials.Number.Notation
import PlannerTrials.Run
import PlannerTrials.Text.Utf8

/-!
# The comparison table

A row of the table has the runs of both solvers on one problem.  On file a row is a `Record`, which
keeps of a run its makespan and its time in seconds to the millisecond.  The columns of the file are
those of `Column.all` in this order, under a header with their names.
-/

namespace PlannerTrials

/-- What the table on file says about a run. -/
structure Measure where
  makespan : Nat
  time : Double
  deriving DecidableEq

/-- A row of the table on file. -/
structure Record where
  domain : String
  problem : String
  sat : Measure
  hsp : Measure
  deriving DecidableEq

/-- What a record says about the run of a solver. -/
def Record.measure (record : Record) : Solver → Measure
  | .sat => record.sat
  | .hsp => record.hsp

/-- A row of the table. -/
structure Row where
  domain : String
  problem : String
  sat : Run
  hsp : Run
  deriving DecidableEq, Repr

/-- The run of a solver in a row. -/
def Row.run (row : Row) : Solver → Run
  | .sat => row.sat
  | .hsp => row.hsp

/-- What the table on file says about a run. -/
def Run.measure (run : Run) : Measure := ⟨run.makespan, run.time⟩

/-- A row as it is on file. -/
def Row.record (row : Row) : Record := ⟨row.domain, row.problem, row.sat.measure, row.hsp.measure⟩

/-- A column of the table on file. -/
inductive Column where
  | domain
  | problem
  | satMakespan
  | satTime
  | hspMakespan
  | hspTime
  deriving DecidableEq, Repr

namespace Column

/-- The columns in their order. -/
def all : List Column := [.domain, .problem, .satMakespan, .satTime, .hspMakespan, .hspTime]

/-- The name of a column. -/
def name : Column → String
  | .domain => "domain"
  | .problem => "problem"
  | .satMakespan => "sat_makespan"
  | .satTime => "sat_time"
  | .hspMakespan => "hsp_makespan"
  | .hspTime => "hsp_time"

/-- The column with a name. -/
def ofName? (name : String) : Option Column := all.find? fun column => column.name = name

/-- How times are written: with a point from a hundred-thousandth up to ten to the sixteenth, else
with an exponent that has a sign only if it is negative. -/
def timeLayout : Number.Layout := ⟨-5, 16, []⟩

/-- The text of a column in a record. -/
def cell (record : Record) : Column → List Char
  | .domain => record.domain.toList
  | .problem => record.problem.toList
  | .satMakespan => Number.digits record.sat.makespan
  | .satTime => record.sat.time.text timeLayout
  | .hspMakespan => Number.digits record.hsp.makespan
  | .hspTime => record.hsp.time.text timeLayout

end Column

namespace Table

/-- The fields of the header. -/
def header : List (List Char) := Column.all.map fun column => column.name.toList

/-- The fields of a record. -/
def cells (record : Record) : List (List Char) := Column.all.map (Column.cell record)

/-- The header and the records as text. -/
def print (records : List Record) : List Char :=
  Csv.printRecord header ++ records.flatMap fun record => Csv.printRecord (cells record)

/-- The content of the file for the rows of a pass. -/
def encode (rows : List Row) : Bytes := Utf8.encode (print (rows.map Row.record))

/-- Writes the file for the rows of a pass record by record. -/
def file (rows : List Row) : Except Failure Bytes :=
  match Csv.printRecords (header :: rows.map fun row => cells row.record) with
  | .ok text => .ok (Utf8.encode text)
  | .error fault => .error (.table fault.message)

end Table

end PlannerTrials
