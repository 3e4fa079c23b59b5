import PlannerTrials.Proofs.Csv.Layout
import PlannerTrials.Proofs.Number.Blank
import PlannerTrials.Proofs.Table.Read

/-!
# The layout of a table does not matter

Tables are written by other programs and by hand, too.  Their columns stand in any order with others
among them, their cells are padded and quoted as one likes, and their lines end in one of several ways.
`LaysOut` says of a text that it is such a table for given records, and `read_of_laysOut` that it is read as
these records, whatever the choices were.

The only thing that is lost are blanks around names, because nobody can tell them from padding.  So the
records are asked to have names without them; numbers never have any (`Numeral.not_isBlank_of_readWord`,
`Double.not_isBlank_of_read`).
-/

namespace PlannerTrials

/-- A record whose names have no blanks around them. -/
structure Record.IsTrimmed (record : Record) : Prop where
  domain : Text.trimmed record.domain = record.domain
  problem : Text.trimmed record.problem = record.problem

namespace Table

/-! ## Layouts -/

/-- A column of a table that is laid out: one of those that are read, or another one with a name. -/
inductive Heading where
  | known (column : Column)
  | extra (name : List Char)
  deriving DecidableEq, Repr

namespace Heading

/-- What stands in the header. -/
def text : Heading → List Char
  | .known column => column.name.toList
  | .extra name => name

/-- The column that is read. -/
def column? : Heading → Option Column
  | .known column => some column
  | .extra _ => none

end Heading

/-- The columns that are read, each of them once, in any order and among others with other names. -/
structure IsHeader (headings : List Heading) : Prop where
  columns : (headings.map Heading.column?).reduceOption.Perm Column.all
  other_names : ∀ name, .extra name ∈ headings →
    ∀ column : Column, Text.trim name ≠ column.name.toList
  no_mark : ∀ name, .extra name ∈ headings → name.head? ≠ some Csv.byteOrderChar

/-- A line for a record: under each column that is read a cell that reads as its part of the record, and
anything under the others. -/
def LineFor (headings : List Heading) (texts : List (List Char)) (record : Record) : Prop :=
  List.Forall₂ (fun heading text => ∀ column ∈ heading.column?, CellReads record text column)
    headings texts

/-- A text that lays out a table of records. -/
def LaysOut (text : List Char) (records : List Record) : Prop :=
  ∃ headings rows, IsHeader headings ∧
    Csv.LinesText text (headings.map Heading.text :: rows) ∧
    List.Forall₂ (LineFor headings) rows records

/-! ## Headers -/

theorem column?_name (column : Column) :
    Column.ofName? (String.ofList (Text.trim column.name.toList)) = some column := by
  cases column <;> decide

/-- The reader finds the columns of a header. -/
theorem ofName?_heading {headings : List Heading} (h : IsHeader headings) {heading : Heading}
    (hheading : heading ∈ headings) :
    Column.ofName? (String.ofList (Text.trim heading.text)) = heading.column? := by
  cases heading with
  | known column => exact column?_name column
  | extra name =>
    refine List.find?_eq_none.mpr fun column _ hname => ?_
    have heq : column.name = String.ofList (Text.trim name) := of_decide_eq_true hname
    refine h.other_names name hheading column ?_
    rw [heq, String.toList_ofList]

theorem IsHeader.two_le_length {headings : List Heading} (h : IsHeader headings) :
    2 ≤ headings.length := by
  have hread := h.columns.length_eq
  have hle := List.reduceOption_length_le (headings.map Heading.column?)
  rw [hread, List.length_map] at hle
  exact Nat.le_trans (by decide) hle

/-- No name in a header begins with a mark of byte order. -/
theorem IsHeader.head?_ne {headings : List Heading} (h : IsHeader headings) {heading : Heading}
    (hheading : heading ∈ headings) : heading.text.head? ≠ some Csv.byteOrderChar := by
  cases heading with
  | known column => cases column <;> decide
  | extra name => exact h.no_mark name hheading

/-! ## Cells -/

/-- Trimming does not change what a cell reads as, if the names of the record are trimmed. -/
theorem cellReads_trim {record : Record} (hrecord : record.IsTrimmed) {text : List Char}
    {column : Column} (h : CellReads record text column) :
    CellReads record (Text.trim text) column := by
  have hname : ∀ {name : String}, Text.trimmed name = name → String.ofList text = name →
      String.ofList (Text.trim text) = name := by
    rintro name htrimmed rfl
    rw [Text.trimmed, String.toList_ofList] at htrimmed
    exact htrimmed
  cases column with
  | domain => exact hname hrecord.domain h
  | problem => exact hname hrecord.problem h
  | satMakespan =>
    rw [Text.trim_of_forall (Number.Numeral.not_isBlank_of_readWord h)]
    exact h
  | satTime =>
    rw [Text.trim_of_forall (Double.not_isBlank_of_read h)]
    exact h
  | hspMakespan =>
    rw [Text.trim_of_forall (Number.Numeral.not_isBlank_of_readWord h)]
    exact h
  | hspTime =>
    rw [Text.trim_of_forall (Double.not_isBlank_of_read h)]
    exact h

theorem exists_lineFor_of_mem {headings : List Heading} {rows : List (List (List Char))}
    {records : List Record} (h : List.Forall₂ (LineFor headings) rows records)
    {texts : List (List Char)} (htexts : texts ∈ rows) : ∃ record, LineFor headings texts record := by
  induction h with
  | nil => cases htexts
  | cons hline _ ih =>
    rcases List.mem_cons.mp htexts with rfl | htexts
    · exact ⟨_, hline⟩
    · exact ih htexts

/-- A line whose fields are, trimmed, those of a line for a record is read as the record. -/
theorem readRecord_of_lineFor {headings : List Heading} (hheader : IsHeader headings)
    {record : Record} (hrecord : record.IsTrimmed) {texts fields : List (List Char)}
    (h : LineFor headings texts record) (htrim : fields.map Text.trim = texts.map Text.trim) :
    readRecord (.named (headings.map Heading.column?)) headings.length
      (fields.map Utf8.encode) = .ok record := by
  have hcells : List.Forall₂ (fun column? cell => ∀ column ∈ column?, CellReads record cell column)
      (headings.map Heading.column?) (fields.map Text.trim) := by
    rw [htrim, List.forall₂_map_left_iff, List.forall₂_map_right_iff]
    exact h.imp fun heading text hcell column hcolumn => cellReads_trim hrecord (hcell column hcolumn)
  have hwidth : headings.length = fields.length := by
    have hlengths := congrArg List.length htrim
    rw [List.length_map, List.length_map] at hlengths
    rw [hlengths, h.length_eq]
  rw [hwidth]
  refine readRecord_eq_ok hcells ?_ fun column => ?_
  · exact hheader.columns.nodup_iff.mpr (by decide)
  · refine hheader.columns.mem_iff.mpr ?_
    cases column <;> decide

/-! ## Tables -/

/-- Lines for records are read as the records one by one. -/
theorem forall₂_readRecord {headings : List Heading} (hheader : IsHeader headings)
    {rows : List (List (List Char))} {records : List Record}
    (hrows : List.Forall₂ (LineFor headings) rows records)
    (hrecords : ∀ record ∈ records, record.IsTrimmed) {fields : List (List (List Char))}
    (htrim : fields.map (List.map Text.trim) = rows.map (List.map Text.trim)) :
    List.Forall₂ (fun fields record => readRecord (.named (headings.map Heading.column?))
      headings.length (fields.map Utf8.encode) = .ok record) fields records := by
  induction hrows generalizing fields with
  | nil =>
    obtain rfl := List.map_eq_nil_iff.mp htrim
    exact .nil
  | @cons texts record rows records hline _ ih =>
    obtain ⟨cells, more, rfl, hcells, hmore⟩ := List.map_eq_cons_iff.mp htrim
    rw [List.forall_mem_cons] at hrecords
    exact .cons (readRecord_of_lineFor hheader hrecords.1 hline hcells) (ih hrecords.2 hmore)

/-- **The layout of a table does not matter**: any text that lays out records is read as these. -/
theorem read_of_laysOut {text : List Char} {records : List Record}
    (hrecords : ∀ record ∈ records, record.IsTrimmed) (h : LaysOut text records) :
    read (Utf8.encode text) = .ok records := by
  obtain ⟨headings, rows, hheader, hlines, hrows⟩ := h
  have hwide : ∀ texts ∈ headings.map Heading.text :: rows, 2 ≤ texts.length := by
    refine List.forall_mem_cons.mpr ⟨?_, fun texts htexts => ?_⟩
    · rw [List.length_map]
      exact hheader.two_le_length
    · obtain ⟨record, hline⟩ := exists_lineFor_of_mem hrows htexts
      rw [← hline.length_eq]
      exact hheader.two_le_length
  have hmark : ∀ first ∈ (headings.map Heading.text).head?,
      first.head? ≠ some Csv.byteOrderChar := by
    intro first hfirst
    obtain ⟨heading, hheading, rfl⟩ := List.mem_map.mp (List.mem_of_mem_head? hfirst)
    exact hheader.head?_ne hheading
  obtain ⟨found, hfound, htrim⟩ := Csv.exists_rows_of_linesText hlines hwide
  obtain ⟨names, fields, rfl, hnames, hfields⟩ := List.map_eq_cons_iff.mp htrim
  have hread := Csv.map_fields_records hfound (hlines.not_byteOrderMark hmark)
  have hwidth : names.length = headings.length := by
    have hlengths := congrArg List.length hnames
    rwa [List.length_map, List.length_map, List.length_map] at hlengths
  refine read_eq_ok hread ?_ (hwidth ▸ forall₂_readRecord hheader hrows hrecords hfields)
  -- The header was read off the trimmed fields, which are those of the headings.
  calc (names.map fun name => Column.ofName? (String.ofList (Text.trim name)))
      = (names.map Text.trim).map fun name => Column.ofName? (String.ofList name) := by
        rw [List.map_map]
        rfl
    _ = headings.map fun heading => Column.ofName? (String.ofList (Text.trim heading.text)) := by
        rw [hnames, List.map_map, List.map_map]
        rfl
    _ = headings.map Heading.column? :=
        List.map_congr_left fun heading hheading => ofName?_heading hheader hheading

/-! ## A table with everything in it -/

/-- Columns in another order, with a column for notes. -/
def mixedHeadings : List Heading :=
  [.known .satTime, .extra "a, b".toList, .known .domain, .known .hspMakespan, .known .problem,
    .known .satMakespan, .known .hspTime]

def mixedRecord : Record :=
  ⟨"x, \"y\"", "p 1", ⟨7, Number.Decimal.toDouble false ⟨5, -1⟩⟩,
    ⟨16, Number.Decimal.toDouble false ⟨1, 0⟩⟩⟩

/-- What stands in the cells of the record. -/
def mixedCells : List (List Char) :=
  ["0.5", "\r", "x, \"y\"", "0x10", "p 1", "+7", "1e0"].map String.toList

/-- A table with padding and quotation marks, an empty line and no end of the last line. -/
def mixedText : List Char :=
  (" sat_time,\"a, b\",domain,\"\thsp_makespan \",problem,sat_makespan,hsp_time\t\r\n\n" ++
    "0.5,\"\r\",\" x, \"\"y\"\"\t\", 0x10 ,\tp 1 ,+7,\"1e0\"").toList

theorem isHeader_mixedHeadings : IsHeader mixedHeadings := by
  have hextra : ∀ {name}, .extra name ∈ mixedHeadings → name = "a, b".toList := by
    simp [mixedHeadings]
  refine ⟨by decide, fun name hname column => ?_, fun name hname => ?_⟩
  · rw [hextra hname]
    cases column <;> decide
  · rw [hextra hname]
    decide

theorem lineFor_mixedCells : LineFor mixedHeadings mixedCells mixedRecord := by
  unfold LineFor mixedHeadings mixedCells
  simp only [List.map_cons, List.map_nil, List.forall₂_cons, List.forall₂_nil_left_iff,
    Heading.column?, Option.mem_def, Option.some.injEq, forall_eq', reduceCtorEq, false_implies,
    implies_true, true_and, and_true]
  simp only [CellReads]
  decide +kernel

/-- A layout with every kind of cell, line and end of line. -/
theorem laysOut_mixedText : LaysOut mixedText [mixedRecord] := by
  have hspace : Csv.IsPad [' '] := by simp [Csv.IsPad]
  have htab : Csv.IsPad ['\t'] := by simp [Csv.IsPad]
  have hnone : Csv.IsPad [] := nofun
  have hbare : ∀ {left text right : List Char}, Csv.IsPad left → Csv.IsPad right →
      text.any Csv.needsMarks = false → Csv.CellText (left ++ text ++ right) text :=
    fun hleft hright htext => .bare hleft hright fun c hc =>
      Bool.eq_false_iff.mpr (List.any_eq_false.mp htext c hc)
  have hheader : Csv.LineText _ (mixedHeadings.map Heading.text) :=
    .cons (hbare hspace hnone (by decide)) <| .cons (.marked hnone hnone) <|
      .cons (hbare hnone hnone (by decide)) <| .cons (.marked htab hspace) <|
      .cons (hbare hnone hnone (by decide)) <| .cons (hbare hnone hnone (by decide)) <|
      .single (hbare hnone htab (by decide))
  have hcells : Csv.LineText _ mixedCells :=
    .cons (hbare hnone hnone (by decide)) <| .cons (.marked hnone hnone) <|
      .cons (.marked hspace htab) <| .cons (hbare hspace hspace (by decide)) <|
      .cons (hbare htab hspace (by decide)) <| .cons (hbare hnone hnone (by decide)) <|
      .single (.marked hnone hnone)
  have hlines := Csv.LinesText.cons hheader .both (.empty .lineFeed (.last hcells))
  refine ⟨mixedHeadings, [mixedCells], isHeader_mixedHeadings, ?_, .cons lineFor_mixedCells .nil⟩
  convert hlines using 1
  decide +kernel

/-- The table is read as its record. -/
theorem read_of_laysOut_mixedText :
    (∀ record ∈ [mixedRecord], record.IsTrimmed) ∧ LaysOut mixedText [mixedRecord] ∧
      read (Utf8.encode mixedText) = .ok [mixedRecord] := by
  have htrimmed : ∀ record ∈ [mixedRecord], record.IsTrimmed := by
    intro record hrecord
    obtain rfl := List.mem_singleton.mp hrecord
    exact ⟨by decide +kernel, by decide +kernel⟩
  exact ⟨htrimmed, laysOut_mixedText, read_of_laysOut htrimmed laysOut_mixedText⟩

end Table
end PlannerTrials
