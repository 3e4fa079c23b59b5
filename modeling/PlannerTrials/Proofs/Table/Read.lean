import PlannerTrials.Table.Read
import PlannerTrials.Proofs.Text.Blank
import PlannerTrials.Proofs.Text.Utf8
import Mathlib.Data.List.Forall2
import Mathlib.Data.List.ReduceOption

/-!
# Reading the cells of a record

The reader goes through the cells of a record from left to right and fills a draft.  Which columns it
has passed says everything about the draft: `Draft.of record seen` is the draft in which the
columns of `seen` hold their parts of `record` and all others are empty.  A cell that reads as its part of the
record leads from one such draft to the next (`put_of`), in whatever order the columns come, and a draft
that has seen every column is the record (`finish_of`).

`readRecords_eq_ok_iff` lifts this to a whole table: a table is read if every record is, and then the
result has one record for each, in the same order.
-/

namespace PlannerTrials
namespace Table

/-! ## Drafts -/

namespace Draft

/-- The draft in which some columns hold their parts of a record. -/
def of (record : Record) (seen : List Column) : Draft where
  domain := if .domain ∈ seen then some record.domain else none
  problem := if .problem ∈ seen then some record.problem else none
  satMakespan := if .satMakespan ∈ seen then some record.sat.makespan else none
  satTime := if .satTime ∈ seen then some record.sat.time else none
  hspMakespan := if .hspMakespan ∈ seen then some record.hsp.makespan else none
  hspTime := if .hspTime ∈ seen then some record.hsp.time else none

@[simp] theorem of_nil (record : Record) : of record [] = {} := rfl

@[simp] theorem has_of (record : Record) (seen : List Column) (column : Column) :
    (of record seen).has column = decide (column ∈ seen) := by
  cases column <;> simp only [has, of] <;> split <;> simp [*]

/-- A draft that has seen every column is the record. -/
theorem finish_of {record : Record} {seen : List Column} (h : ∀ column, column ∈ seen) :
    (of record seen).finish = .ok record := by
  simp only [of, h, if_true, finish]

end Draft

/-- What a cell has to be read as, to be the cell of a column in a record. -/
def CellReads (record : Record) (cell : List Char) : Column → Prop
  | .domain => String.ofList cell = record.domain
  | .problem => String.ofList cell = record.problem
  | .satMakespan => Number.Numeral.readWord cell = .ok record.sat.makespan
  | .satTime => Double.read cell = .ok record.sat.time
  | .hspMakespan => Number.Numeral.readWord cell = .ok record.hsp.makespan
  | .hspTime => Double.read cell = .ok record.hsp.time

theorem Draft.readMakespan_eq_ok {cell : List Char} {n : Nat}
    (h : Number.Numeral.readWord cell = .ok n) : readMakespan cell = .ok n := by
  rw [readMakespan, h]
  rfl

theorem Draft.readTime_eq_ok {cell : List Char} {x : Double} (h : Double.read cell = .ok x) :
    readTime cell = .ok x := by
  rw [readTime, h]
  rfl

/-- A cell that reads as its part of the record adds its column to those seen. -/
theorem Draft.put_of {record : Record} {cell : List Char} {column : Column}
    (h : CellReads record cell column) (seen : List Column) :
    (Draft.of record seen).put cell column = .ok (Draft.of record (column :: seen)) := by
  cases column with
  | domain => simp [put, of, show String.ofList cell = record.domain from h]
  | problem => simp [put, of, show String.ofList cell = record.problem from h]
  | satMakespan =>
    rw [put, readMakespan_eq_ok h]
    simp [of, Except.map]
  | satTime =>
    rw [put, readTime_eq_ok h]
    simp [of, Except.map]
  | hspMakespan =>
    rw [put, readMakespan_eq_ok h]
    simp [of, Except.map]
  | hspTime =>
    rw [put, readTime_eq_ok h]
    simp [of, Except.map]

/-! ## Cells -/

/-- Cells under columns of which none occurs twice are read onto what has been seen. -/
theorem readCells_of {record : Record} {columns : List (Option Column)} {cells : List (List Char)}
    (hcells : List.Forall₂ (fun column? cell => ∀ column ∈ column?, CellReads record cell column)
      columns cells) (seen : List Column)
    (hnodup : (columns.reduceOption ++ seen).Nodup) (number : Nat) :
    readCells (Draft.of record seen) number columns cells =
      .ok (Draft.of record (columns.reduceOption.reverse ++ seen)) := by
  induction hcells generalizing seen number with
  | nil => rfl
  | @cons column? cell columns cells hcell hcells ih =>
    cases column? with
    | none =>
      rw [List.reduceOption_cons_of_none] at hnodup ⊢
      rw [readCells]
      exact ih seen hnodup (number + 1)
    | some column =>
      rw [List.reduceOption_cons_of_some] at hnodup ⊢
      have hnew : column ∉ seen := fun hmem =>
        (List.nodup_cons.mp hnodup).1 (List.mem_append_right _ hmem)
      have hrest : (columns.reduceOption ++ column :: seen).Nodup :=
        (List.perm_middle.nodup_iff).mpr hnodup
      rw [readCells, Draft.has_of, if_neg (by simpa using hnew),
        Draft.put_of (hcell column rfl) seen, List.reverse_cons, List.append_assoc]
      exact ih (column :: seen) hrest (number + 1)

/-- Fields that were encoded are read as their trimmed texts. -/
theorem readTexts_encode (number : Nat) (fields : List (List Char)) :
    readTexts number (fields.map Utf8.encode) = .ok (fields.map Text.trim) := by
  induction fields generalizing number with
  | nil => rfl
  | cons field fields ih =>
    rw [List.map_cons, readTexts, Utf8.decode_encode]
    simp only [ih]
    rfl

/-! ## Records -/

/-- **A record is read** from cells that read as its parts, in the order of any header that names every
column once. -/
theorem readRecord_eq_ok {record : Record} {header : Header} {fields : List (List Char)}
    (hcells : List.Forall₂ (fun column? cell => ∀ column ∈ column?, CellReads record cell column)
      header.columns (fields.map Text.trim))
    (hnodup : header.columns.reduceOption.Nodup)
    (hall : ∀ column, column ∈ header.columns.reduceOption) :
    readRecord header fields.length (fields.map Utf8.encode) = .ok record := by
  have hread := readCells_of hcells [] (by rwa [List.append_nil]) 0
  have hseen : ∀ column, column ∈ header.columns.reduceOption.reverse ++ [] := fun column => by
    rw [List.append_nil, List.mem_reverse]
    exact hall column
  unfold readRecord
  rw [if_neg (by simp), readTexts_encode]
  simp only
  rw [← Draft.of_nil record, hread]
  simp only [Draft.finish_of hseen]
  rfl

/-- **A table is read record by record**: it is accepted if and only if every record is, and has the
records in their order. -/
theorem readRecords_eq_ok_iff {header : Header} {width : Nat} {rows : List Csv.Record}
    {records : List Record} :
    readRecords header width rows = .ok records ↔
      List.Forall₂ (fun row record => readRecord header width row.fields = .ok record)
        rows records := by
  induction rows generalizing records with
  | nil =>
    rw [readRecords, List.forall₂_nil_left_iff, Except.ok.injEq]
    exact eq_comm
  | cons row rows ih =>
    rw [readRecords, List.forall₂_cons_left_iff]
    constructor
    · intro h
      split at h
      · exact absurd h (by simp)
      · next record hrecord =>
        cases hrest : readRecords header width rows with
        | error fault =>
          rw [hrest] at h
          exact absurd h (by simp [Except.map])
        | ok rest =>
          rw [hrest] at h
          exact ⟨record, rest, hrecord, ih.mp hrest, (Except.ok.inj h).symm⟩
    · rintro ⟨record, rest, hrecord, hrest, rfl⟩
      rw [hrecord, ih.mpr hrest]
      rfl

/-! ## Tables -/

/-- The header that named columns are. -/
theorem ofRecord_of_fields {row : Csv.Record} {names : List (List Char)}
    (h : row.fields = names.map Utf8.encode) :
    Header.ofRecord row =
      .named (names.map fun name => Column.ofName? (String.ofList (Text.trim name))) := by
  rw [Header.ofRecord, h, readTexts_encode]
  simp only [List.map_map]
  rfl

/-- The columns that names in a header stand for. -/
def columnsOf (names : List (List Char)) : List (Option Column) :=
  names.map fun name => Column.ofName? (String.ofList (Text.trim name))

/-- **A table is read** if and only if under the names of its columns every record is. -/
theorem read_eq_ok_iff {file : Bytes} {names : List (List Char)} {rows : List (List (List Char))}
    {records : List Record}
    (hfields : (Csv.records file).map Csv.Record.fields =
      (names :: rows).map (List.map Utf8.encode)) :
    read file = .ok records ↔
      List.Forall₂ (fun fields record => readRecord (.named (columnsOf names)) names.length
        (fields.map Utf8.encode) = .ok record) rows records := by
  unfold read Table.records
  cases hfile : Csv.records file with
  | nil =>
    rw [hfile] at hfields
    exact absurd hfields (by simp)
  | cons first rest =>
    rw [hfile, List.map_cons, List.map_cons] at hfields
    obtain ⟨hfirst, hrest⟩ := List.cons.inj hfields
    have hwidth : first.fields.length = names.length := by rw [hfirst, List.length_map]
    have hpairs : readRecords (.named (columnsOf names)) names.length rest = .ok records ↔
        List.Forall₂ (fun fields record => readRecord (.named (columnsOf names)) names.length
          fields = .ok record) (rest.map Csv.Record.fields) records := by
      rw [readRecords_eq_ok_iff, List.forall₂_map_left_iff]
    rw [hrest, List.forall₂_map_left_iff] at hpairs
    have hheader : Header.ofRecord first = .named (columnsOf names) := ofRecord_of_fields hfirst
    simp only [hheader, hwidth]
    rw [← hpairs]
    cases readRecords (.named (columnsOf names)) names.length rest with
    | error fault => simp [Except.mapError]
    | ok found => simp [Except.mapError]

/-- A table is read if under the columns of its header every record is. -/
theorem read_eq_ok {file : Bytes} {names : List (List Char)} {rows : List (List (List Char))}
    {records : List Record} {columns : List (Option Column)}
    (hfields : (Csv.records file).map Csv.Record.fields =
      (names :: rows).map (List.map Utf8.encode))
    (hcolumns : (names.map fun name => Column.ofName? (String.ofList (Text.trim name))) = columns)
    (hrows : List.Forall₂ (fun fields record => readRecord (.named columns) names.length
      (fields.map Utf8.encode) = .ok record) rows records) :
    read file = .ok records := by
  subst hcolumns
  exact (read_eq_ok_iff hfields).mpr hrows

end Table
end PlannerTrials
