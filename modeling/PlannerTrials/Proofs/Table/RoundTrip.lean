import PlannerTrials.Proofs.Csv.Print
import PlannerTrials.Proofs.Number.Notation
import PlannerTrials.Proofs.Number.Numeral
import PlannerTrials.Proofs.Table.Read

/-!
# A written table reads back

Writing a table and reading one are two machines that know nothing of each other.  `read_encode` says
that the second undoes the first up to the blanks around the two names of a row: the writer keeps
them, and the reader takes the blanks off every cell.  Nothing else is lost.  Commas, quotation marks and
breaks inside the names survive, and so do the times, since every double reads back from its
shortest text.

## The route

Printed records are a written text of the grammar in `Csv.Rows` (`Csv.rows_printRecord`), and written
texts are read as their fields (`Csv.map_fields_records`).  What is left is one record at a
time: its cells, trimmed, read as the parts of the trimmed record (`cellReads_cell`).
-/

namespace PlannerTrials

/-! ## What survives -/

/-- A record without the blanks around its names. -/
def Record.trimmed (record : Record) : Record :=
  { record with domain := Text.trimmed record.domain, problem := Text.trimmed record.problem }

/-- The makespans of a record are numbers that a table can hold. -/
structure Record.Fits (record : Record) : Prop where
  sat : record.sat.makespan < Number.Numeral.wordLimit
  hsp : record.hsp.makespan < Number.Numeral.wordLimit

/-- What a record that was read says about the row that was written: the names without the blanks
around them, the same makespans, and the times of the runs in seconds to the millisecond. -/
structure Row.ReadsAs (row : Row) (record : Record) : Prop where
  domain : Text.IsCore record.domain.toList row.domain.toList
  problem : Text.IsCore record.problem.toList row.problem.toList
  satMakespan : record.sat.makespan = row.sat.makespan
  satTime : record.sat.time = row.sat.elapsed.inSeconds.roundMillis
  hspMakespan : record.hsp.makespan = row.hsp.makespan
  hspTime : record.hsp.time = row.hsp.elapsed.inSeconds.roundMillis

/-- What the table on file has as the time of a run. -/
theorem Run.time_measure (run : Run) : run.measure.time = run.elapsed.inSeconds.roundMillis := by
  rw [measure, time, Elapsed.rounded]

/-- The names that were read are those of the row, trimmed. -/
theorem Row.ReadsAs.names {row : Row} {record : Record} (h : row.ReadsAs record) :
    record.domain = Text.trimmed row.domain ∧ record.problem = Text.trimmed row.problem := by
  rw [← String.toList_inj, ← String.toList_inj, Text.isCore_iff.mp h.domain,
    Text.isCore_iff.mp h.problem]
  exact ⟨String.toList_ofList.symm, String.toList_ofList.symm⟩

theorem Row.readsAs_trimmed (row : Row) : row.ReadsAs row.record.trimmed where
  domain := by
    rw [Text.isCore_iff]
    exact String.toList_ofList
  problem := by
    rw [Text.isCore_iff]
    exact String.toList_ofList
  satMakespan := rfl
  satTime := row.sat.time_measure
  hspMakespan := rfl
  hspTime := row.hsp.time_measure

namespace Table

/-! ## Cells -/

theorem trim_digits (n : Nat) : Text.trim (Number.digits n) = Number.digits n :=
  Text.trim_of_forall fun _ hc => Number.not_isBlank_of_isDigit (Number.isDigit_of_mem_digits hc)

theorem trim_time (x : Double) : Text.trim (x.text Column.timeLayout) = x.text Column.timeLayout :=
  Text.trim_of_forall fun _ hc => Double.not_isBlank_of_mem_text (.inl rfl) x hc

/-- Every cell of a record, trimmed, reads as its part of the trimmed record. -/
theorem cellReads_cell {record : Record} (h : record.Fits) (column : Column) :
    CellReads record.trimmed (Text.trim (column.cell record)) column := by
  cases column with
  | domain => rfl
  | problem => rfl
  | satMakespan =>
    show Number.Numeral.readWord (Text.trim (Number.digits record.sat.makespan)) = _
    rw [trim_digits]
    exact Number.Numeral.readWord_digits h.sat
  | satTime =>
    show Double.read (Text.trim (record.sat.time.text Column.timeLayout)) = _
    rw [trim_time]
    exact Double.read_text (.inl rfl) _
  | hspMakespan =>
    show Number.Numeral.readWord (Text.trim (Number.digits record.hsp.makespan)) = _
    rw [trim_digits]
    exact Number.Numeral.readWord_digits h.hsp
  | hspTime =>
    show Double.read (Text.trim (record.hsp.time.text Column.timeLayout)) = _
    rw [trim_time]
    exact Double.read_text (.inl rfl) _

/-! ## Records -/

/-- A written record is read as the record without the blanks around its names. -/
theorem readRecord_cells {record : Record} (h : record.Fits) :
    readRecord (.named (Column.all.map some)) header.length ((cells record).map Utf8.encode) =
      .ok record.trimmed := by
  have hall : (Column.all.map some).reduceOption = Column.all := by decide
  have hcells : List.Forall₂
      (fun column? cell => ∀ column ∈ column?, CellReads record.trimmed cell column)
      (Column.all.map some) ((cells record).map Text.trim) := by
    rw [cells, List.map_map, List.forall₂_map_left_iff, List.forall₂_map_right_iff,
      List.forall₂_same]
    intro column _ named hnamed
    obtain rfl := Option.mem_some_iff.mp hnamed
    exact cellReads_cell h column
  have hwidth : header.length = (cells record).length := by
    rw [header, cells, List.length_map, List.length_map]
  rw [hwidth]
  refine readRecord_eq_ok hcells ?_ fun column => ?_
  · show ((Column.all.map some).reduceOption).Nodup
    rw [hall]
    decide
  · show column ∈ (Column.all.map some).reduceOption
    rw [hall]
    cases column <;> decide

/-! ## The whole table -/

theorem two_le_length_of_mem {records : List Record} {fields : List (List Char)}
    (h : fields ∈ header :: records.map cells) : 2 ≤ fields.length := by
  rcases List.mem_cons.mp h with rfl | h
  · decide
  · obtain ⟨record, _, rfl⟩ := List.mem_map.mp h
    rw [cells, List.length_map]
    decide

theorem print_eq (records : List Record) :
    print records = (header :: records.map cells).flatMap Csv.printRecord := by
  rw [List.flatMap_cons, List.flatMap_map]
  rfl

/-- A written table does not start with a mark of byte order. -/
theorem not_byteOrderMark (records : List Record) :
    Csv.byteOrderMark.isPrefixOf (Utf8.encode (print records)) = false := by
  have hletter : Csv.printRecord header = 'd' :: (Csv.printRecord header).tail := by decide
  rw [print, hletter, List.cons_append, Utf8.encode_cons]
  rfl

/-- The fields of a written table. -/
theorem map_fields_print (records : List Record) :
    (Csv.records (Utf8.encode (print records))).map Csv.Record.fields =
      (header :: records.map cells).map (List.map Utf8.encode) := by
  refine Csv.map_fields_records ?_ (not_byteOrderMark records)
  rw [print_eq]
  exact Csv.rows_printRecord fun fields hfields => two_le_length_of_mem hfields

/-- A written table is read as its records without the blanks around their names. -/
theorem read_print {records : List Record} (h : ∀ record ∈ records, record.Fits) :
    read (Utf8.encode (print records)) = .ok (records.map Record.trimmed) := by
  have hcolumns : (header.map fun name => Column.ofName? (String.ofList (Text.trim name))) =
      Column.all.map some := by decide
  refine read_eq_ok (map_fields_print records) hcolumns ?_
  rw [List.forall₂_map_left_iff, List.forall₂_map_right_iff, List.forall₂_same]
  exact fun record hrecord => readRecord_cells (h record hrecord)

/-- The writer never refuses the rows of a pass: their records are as wide as the header. -/
theorem file_eq_ok (rows : List Row) : file rows = .ok (encode rows) := by
  have hwide : ∀ fields ∈ header :: rows.map fun row => cells row.record,
      fields.length = header.length := by
    intro fields hfields
    rcases List.mem_cons.mp hfields with rfl | hfields
    · rfl
    · obtain ⟨row, _, rfl⟩ := List.mem_map.mp hfields
      rw [cells, header, List.length_map, List.length_map]
  have hprint : Csv.printRecords (header :: rows.map fun row => cells row.record) =
      .ok ((header :: rows.map fun row => cells row.record).flatMap Csv.printRecord) :=
    Csv.printWide_eq_ok hwide
  rw [file, hprint, encode, print_eq, List.map_map]
  rfl

/-- A written table is read as the records of its rows without the blanks around their names. -/
theorem read_encode {rows : List Row} (h : ∀ row ∈ rows, row.record.Fits) :
    read (encode rows) = .ok (rows.map fun row => row.record.trimmed) := by
  rw [encode, read_print, List.map_map]
  · rfl
  · intro record hrecord
    obtain ⟨row, hrow, rfl⟩ := List.mem_map.mp hrecord
    exact h row hrow

/-- **A written table reads back.**  Whatever stands in the names of the rows, the file is written, and
reading it gives one record for each row, in their order, with the names without the blanks around
them and with the same makespans and times. -/
theorem file_reads_back (rows : List Row)
    (h : ∀ row ∈ rows, row.sat.makespan < Number.Numeral.wordLimit ∧
      row.hsp.makespan < Number.Numeral.wordLimit) :
    ∃ content records, file rows = .ok content ∧ read content = .ok records ∧
      List.Forall₂ Row.ReadsAs rows records := by
  refine ⟨encode rows, _, file_eq_ok rows, read_encode fun row hrow => ?_, ?_⟩
  · exact ⟨(h row hrow).1, (h row hrow).2⟩
  · rw [List.forall₂_map_right_iff, List.forall₂_same]
    exact fun row _ => row.readsAs_trimmed

/-- Names with commas, quotation marks, breaks and blanks, the largest makespan, and a run that could not be
launched. -/
def awkwardRows : List Row :=
  [⟨" a,\"b\"\r\n c ", "\"", ⟨⟨1, 2500000⟩, 4294967295, .completed⟩, ⟨⟨0, 400000⟩, 0, .failed⟩⟩,
    ⟨"", " \n", ⟨⟨3, 0⟩, 7, .completed⟩, ⟨⟨0, 20000000⟩, 11, .completed⟩⟩]

/-- All that such rows lose are the blanks around their names and what is below a millisecond. -/
theorem file_reads_back_of_awkward_names :
    (∀ row ∈ awkwardRows, row.sat.makespan < Number.Numeral.wordLimit ∧
      row.hsp.makespan < Number.Numeral.wordLimit) ∧
    ∃ content records, file awkwardRows = .ok content ∧ read content = .ok records ∧
      List.Forall₂ Row.ReadsAs awkwardRows records ∧
      records.map (fun r => (r.domain, r.problem)) = [("a,\"b\"\r\n c", "\""), ("", "")] ∧
      records.map (fun r => (r.sat.makespan, r.hsp.makespan)) = [(4294967295, 0), (7, 11)] ∧
      records.map (fun r => r.hsp.time) =
        [Double.zero, (Double.ofNat 2).dividedBy 100] := by
  have hfits : ∀ row ∈ awkwardRows, row.sat.makespan < Number.Numeral.wordLimit ∧
      row.hsp.makespan < Number.Numeral.wordLimit := by decide
  obtain ⟨content, records, hfile, hread, hrecords⟩ := file_reads_back awkwardRows hfits
  refine ⟨hfits, content, records, hfile, hread, hrecords, ?_⟩
  obtain _ | ⟨hfirst, _ | ⟨hsecond, _ | _⟩⟩ := hrecords
  have hnames := hfirst.names
  have hnames' := hsecond.names
  refine ⟨?_, ?_, ?_⟩
  · simp only [List.map_cons, List.map_nil, hnames, hnames']
    decide
  · simp only [List.map_cons, List.map_nil, hfirst.satMakespan, hfirst.hspMakespan,
      hsecond.satMakespan, hsecond.hspMakespan]
  · simp only [List.map_cons, List.map_nil, hfirst.hspTime, hsecond.hspTime]
    decide +kernel

end Table
end PlannerTrials
