import PlannerTrials.Csv.Token
import PlannerTrials.Failure
import PlannerTrials.Number.Decimal
import PlannerTrials.Table.Basic
import PlannerTrials.Text.Blank

/-!
# Reading a comparison table

The first record of a file is its header.  Columns are found by their names, blanks around names and
cells do not count, and columns with other names are passed over.  Every record has as many fields as
the header, and every record after the header must have a readable cell in each of the six columns;
the first thing that is wrong, in the order of the file, is the fault of the whole file.  If the
header is not valid text, the first six columns are taken in the order of `Column.all`.
-/

namespace PlannerTrials.Table

/-- What can be wrong with a record. -/
inductive RecordFault where
  /-- The number of fields is not the one of the header. -/
  | fieldCount (found expected : Nat)
  /-- A field is not valid text beyond a number of bytes; the blanks before its text do not count. -/
  | notText (field valid : Nat)
  /-- A cell cannot be read as a number. -/
  | cell (field : Nat) (message : String)
  /-- A second column has the name of a column. -/
  | repeated (column : Column)
  /-- A column is missing. -/
  | missing (column : Column)
  /-- There are too few columns where names cannot be told. -/
  | tooShort (count : Nat)
  deriving DecidableEq, Repr

/-- A fault with the position of its record. -/
structure Fault where
  position : Csv.Position
  fault : RecordFault
  deriving DecidableEq, Repr

/-- A position as it is told. -/
def positionText (p : Csv.Position) : String :=
  "record " ++ toString p.record ++ " (line: " ++ toString p.line ++ ", byte: " ++
    toString p.byte ++ ")"

/-- What a fault is. -/
def Fault.message (f : Fault) : String :=
  let p := f.position
  let unreadable (reason : String) : String :=
    "CSV deserialize error: " ++ positionText p ++ ": " ++ reason
  match f.fault with
  | .fieldCount found expected =>
    "CSV error: " ++ positionText p ++ ": found record with " ++ toString found ++
      " fields, but the previous record has " ++ toString expected ++ " fields"
  | .notText field valid =>
    "CSV parse error: record " ++ toString p.record ++ " (line " ++ toString p.line ++
      ", field: " ++ toString field ++ ", byte: " ++ toString p.byte ++
      "): invalid utf-8: invalid UTF-8 in field " ++ toString field ++ " near byte index " ++
      toString valid
  | .cell field message => unreadable ("field " ++ toString field ++ ": " ++ message)
  | .repeated column => unreadable ("duplicate field \x60" ++ column.name ++ "\x60")
  | .missing column => unreadable ("missing field \x60" ++ column.name ++ "\x60")
  | .tooShort count =>
    unreadable ("invalid length " ++ toString count ++
      ", expected struct ComparisonRecord with 6 elements")

/-- The cells of a record that have been read so far. -/
structure Draft where
  domain : Option String := none
  problem : Option String := none
  satMakespan : Option Nat := none
  satTime : Option Double := none
  hspMakespan : Option Nat := none
  hspTime : Option Double := none

namespace Draft

/-- Whether the cell of a column has been read. -/
def has (draft : Draft) : Column → Bool
  | .domain => draft.domain.isSome
  | .problem => draft.problem.isSome
  | .satMakespan => draft.satMakespan.isSome
  | .satTime => draft.satTime.isSome
  | .hspMakespan => draft.hspMakespan.isSome
  | .hspTime => draft.hspTime.isSome

/-- Reads a cell with a makespan. -/
def readMakespan (cell : List Char) : Except String Nat :=
  (Number.Numeral.readWord cell).mapError Number.NumeralFault.message

/-- Reads a cell with a time. -/
def readTime (cell : List Char) : Except String Double :=
  (Double.read cell).mapError Number.DoubleFault.message

/-- Reads the cell of a column. -/
def put (draft : Draft) (cell : List Char) : Column → Except String Draft
  | .domain => .ok { draft with domain := some (String.ofList cell) }
  | .problem => .ok { draft with problem := some (String.ofList cell) }
  | .satMakespan => (readMakespan cell).map fun n => { draft with satMakespan := some n }
  | .satTime => (readTime cell).map fun x => { draft with satTime := some x }
  | .hspMakespan => (readMakespan cell).map fun n => { draft with hspMakespan := some n }
  | .hspTime => (readTime cell).map fun x => { draft with hspTime := some x }

/-- The record, or the first column without a cell. -/
def finish (draft : Draft) : Except Column Record :=
  match draft with
  | ⟨some domain, some problem, some satMakespan, some satTime, some hspMakespan,
      some hspTime⟩ => .ok ⟨domain, problem, ⟨satMakespan, satTime⟩, ⟨hspMakespan, hspTime⟩⟩
  | _ =>
    match Column.all.find? fun column => !draft.has column with
    | some column => .error column
    | none => .error .domain

end Draft

/-- How the columns of a file are told apart. -/
inductive Header where
  /-- By the names in the header. -/
  | named (columns : List (Option Column))
  /-- By their order. -/
  | ordered
  deriving DecidableEq, Repr

/-- The column of each field. -/
def Header.columns : Header → List (Option Column)
  | .named columns => columns
  | .ordered => Column.all.map some

/-- The fault of a record without a cell in a column. -/
def Header.lack (header : Header) (count : Nat) (column : Column) : RecordFault :=
  match header with
  | .named _ => .missing column
  | .ordered => .tooShort count

/-- Whether a byte is a blank of ASCII. -/
def isBlankByte (b : UInt8) : Bool := b = 0x20 || b = 0x09 || b = 0x0a || b = 0x0c || b = 0x0d

/-- The trimmed text of each field, or the first field that is not text. -/
def readTexts (number : Nat) : List Bytes → Except RecordFault (List (List Char))
  | [] => .ok []
  | field :: rest =>
    match Utf8.decode field with
    | .error valid => .error (.notText number (valid - (field.takeWhile isBlankByte).length))
    | .ok cs => (readTexts (number + 1) rest).map (Text.trim cs :: ·)

/-- The header that a record is. -/
def Header.ofRecord (record : Csv.Record) : Header :=
  match readTexts 0 record.fields with
  | .ok names => .named (names.map fun name => Column.ofName? (String.ofList name))
  | .error _ => .ordered

/-- Reads the cells of a record from left to right. -/
def readCells (draft : Draft) (number : Nat) :
    List (Option Column) → List (List Char) → Except RecordFault Draft
  | some column :: columns, cell :: cells =>
    if draft.has column then .error (.repeated column)
    else
      match draft.put cell column with
      | .error message => .error (.cell number message)
      | .ok draft => readCells draft (number + 1) columns cells
  | none :: columns, _ :: cells => readCells draft (number + 1) columns cells
  | _, _ => .ok draft

/-- Reads a record under a header with a number of fields. -/
def readRecord (header : Header) (width : Nat) (fields : List Bytes) :
    Except RecordFault Record :=
  if fields.length ≠ width then .error (.fieldCount fields.length width)
  else
    match readTexts 0 fields with
    | .error fault => .error fault
    | .ok cells =>
      match readCells {} 0 header.columns cells with
      | .error fault => .error fault
      | .ok draft => draft.finish.mapError (header.lack cells.length)

/-- Reads records under a header with a number of fields. -/
def readRecords (header : Header) (width : Nat) : List Csv.Record → Except Fault (List Record)
  | [] => .ok []
  | record :: rest =>
    match readRecord header width record.fields with
    | .error fault => .error ⟨record.position, fault⟩
    | .ok r => (readRecords header width rest).map (r :: ·)

/-- The records of a file, or what is wrong with it first. -/
def records (file : Bytes) : Except Fault (List Record) :=
  match Csv.records file with
  | [] => .ok []
  | header :: rest => readRecords (Header.ofRecord header) header.fields.length rest

/-- The records of a file. -/
def read (file : Bytes) : Except Failure (List Record) :=
  (records file).mapError fun fault => .table fault.message

end PlannerTrials.Table
