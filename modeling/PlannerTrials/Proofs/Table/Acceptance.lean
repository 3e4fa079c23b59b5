import PlannerTrials.Proofs.Csv.Grammar
import PlannerTrials.Proofs.Number.Word
import PlannerTrials.Proofs.Table.Read
import Mathlib.Data.List.Nodup

/-!
# Which texts are tables

Any text has rows of cells (`Csv.exists_anyRows`), and the first row is the header.  Whether the text is a
table is then a question about rows, which `IsTable` answers without a reader: every row is as wide as the
header, the header has the name of every column once, and under these names stand cells that are what they
have to be.  Nothing is asked of the names where no row follows them.

`reads_iff_isTable` says that these texts are read and no others, that every row is read as the record
in its cells, and that whatever is wrong with one row keeps all of them from being read.

## Back from a draft

Reading goes from cells to a draft, and here the way back is needed: what does a draft that was
filled say about the cells?  A draft is always `Draft.of` some record and the columns that have been seen,
and a cell that was put into it reads as a part of another record, which agrees with the first one on
these columns (`Draft.exists_of_put`).
-/

namespace PlannerTrials
namespace Table

/-! ## Records that agree -/

/-- Two records have the same part in a column. -/
def SameIn (record other : Record) : Column → Prop
  | .domain => record.domain = other.domain
  | .problem => record.problem = other.problem
  | .satMakespan => record.sat.makespan = other.sat.makespan
  | .satTime => record.sat.time = other.sat.time
  | .hspMakespan => record.hsp.makespan = other.hsp.makespan
  | .hspTime => record.hsp.time = other.hsp.time

theorem CellReads.of_sameIn {record other : Record} {cell : List Char} {column : Column}
    (h : CellReads record cell column) (hsame : SameIn record other column) :
    CellReads other cell column := by
  cases column with
  | domain | problem => exact h.trans hsame
  | satMakespan | satTime | hspMakespan | hspTime => exact h.trans (congrArg Except.ok hsame)

/-- What succeeds behind a reader has been read. -/
theorem exists_of_map_mapError {ε δ α β : Type} {read : Except ε α} {told : ε → δ} {put : α → β}
    {result : β} (h : (read.mapError told).map put = .ok result) :
    ∃ a, read = .ok a ∧ put a = result := by
  cases read with
  | error fault => cases h
  | ok a => exact ⟨a, rfl, Except.ok.inj h⟩

namespace Draft

theorem sameIn_of_eq {record other : Record} {seen : List Column}
    (h : of record seen = of other seen) {column : Column} (hmem : column ∈ seen) :
    SameIn record other column := by
  simp only [of, mk.injEq] at h
  obtain ⟨hdomain, hproblem, hsatMakespan, hsatTime, hhspMakespan, hhspTime⟩ := h
  cases column <;> simp_all [SameIn]

theorem of_eq_of_subset {record other : Record} {seen more : List Column}
    (h : of record more = of other more) (hsub : ∀ column ∈ seen, column ∈ more) :
    of record seen = of other seen := by
  have hsame : ∀ column ∈ seen, SameIn record other column := fun column hcolumn =>
    sameIn_of_eq h (hsub column hcolumn)
  simp only [of, mk.injEq]
  refine ⟨?_, ?_, ?_, ?_, ?_, ?_⟩ <;>
    · split
      · next hmem => exact congrArg some (hsame _ hmem)
      · rfl

/-! ## What a draft says about its cells -/

/-- A cell that was put into a draft reads as a part of a record, and nothing that was there before has
changed. -/
theorem exists_of_put {record : Record} {seen : List Column} {cell : List Char} {column : Column}
    {draft : Draft} (hnew : column ∉ seen)
    (h : (of record seen).put cell column = .ok draft) :
    ∃ other, CellReads other cell column ∧ draft = of other (column :: seen) ∧
      of other seen = of record seen := by
  cases column with
  | domain =>
    obtain rfl := Except.ok.inj h
    exact ⟨{ record with domain := String.ofList cell }, rfl, by simp [of], by simp [of, hnew]⟩
  | problem =>
    obtain rfl := Except.ok.inj h
    exact ⟨{ record with problem := String.ofList cell }, rfl, by simp [of], by simp [of, hnew]⟩
  | satMakespan =>
    obtain ⟨n, hread, rfl⟩ := exists_of_map_mapError h
    exact ⟨{ record with sat := ⟨n, record.sat.time⟩ }, hread, by simp [of], by simp [of, hnew]⟩
  | satTime =>
    obtain ⟨x, hread, rfl⟩ := exists_of_map_mapError h
    exact ⟨{ record with sat := ⟨record.sat.makespan, x⟩ }, hread, by simp [of],
      by simp [of, hnew]⟩
  | hspMakespan =>
    obtain ⟨n, hread, rfl⟩ := exists_of_map_mapError h
    exact ⟨{ record with hsp := ⟨n, record.hsp.time⟩ }, hread, by simp [of], by simp [of, hnew]⟩
  | hspTime =>
    obtain ⟨x, hread, rfl⟩ := exists_of_map_mapError h
    exact ⟨{ record with hsp := ⟨record.hsp.makespan, x⟩ }, hread, by simp [of],
      by simp [of, hnew]⟩

theorem has_of_finish {draft : Draft} {record : Record} (h : draft.finish = .ok record)
    (column : Column) : draft.has column = true := by
  unfold finish at h
  split at h
  · cases column <;> rfl
  · split at h <;> cases h

/-- **A draft is finished** if and only if every column has been seen. -/
theorem finish_of_eq_ok_iff {record found : Record} {seen : List Column} :
    (of record seen).finish = .ok found ↔ (∀ column, column ∈ seen) ∧ record = found := by
  constructor
  · intro h
    have hseen : ∀ column, column ∈ seen := fun column => by
      have hhas := has_of_finish h column
      rwa [has_of, decide_eq_true_iff] at hhas
    rw [finish_of hseen] at h
    exact ⟨hseen, Except.ok.inj h⟩
  · rintro ⟨hseen, rfl⟩
    exact finish_of hseen

end Draft

/-! ## Cells -/

/-- What a cell under a column has to be. -/
def Readable (cell : List Char) : Column → Prop
  | .domain | .problem => True
  | .satMakespan | .hspMakespan => ∃ n, Number.Numeral.IsWord cell n
  | .satTime | .hspTime => ∃ x, Double.read cell = .ok x

theorem CellReads.readable {record : Record} {cell : List Char} {column : Column}
    (h : CellReads record cell column) : Readable cell column := by
  cases column with
  | domain | problem => trivial
  | satMakespan | hspMakespan => exact ⟨_, Number.Numeral.readWord_eq_ok_iff.mp h⟩
  | satTime | hspTime => exact ⟨_, h⟩

theorem Readable.exists_put {cell : List Char} {column : Column} (h : Readable cell column)
    (draft : Draft) : ∃ next, draft.put cell column = .ok next := by
  cases column with
  | domain | problem => exact ⟨_, rfl⟩
  | satMakespan | hspMakespan =>
    obtain ⟨n, hword⟩ := h
    rw [Draft.put, Draft.readMakespan_eq_ok (Number.Numeral.readWord_eq_ok_iff.mpr hword)]
    exact ⟨_, rfl⟩
  | satTime | hspTime =>
    obtain ⟨x, hread⟩ := h
    rw [Draft.put, Draft.readTime_eq_ok hread]
    exact ⟨_, rfl⟩

/-- Cells side by side with the columns above them, all of which are what is asked for. -/
abbrev Under (ask : List Char → Column → Prop) (columns : List (Option Column))
    (cells : List (List Char)) : Prop :=
  List.Forall₂ (fun column? cell => ∀ column ∈ column?, ask cell column) columns cells

/-- **What was read is in the cells**: the draft after the cells is that of a record whose parts they
read as, no column came twice, and what had been seen before has not changed. -/
theorem exists_of_readCells {record : Record} {columns : List (Option Column)}
    {cells : List (List Char)} {seen : List Column} {number : Nat} {draft : Draft}
    (hlength : columns.length = cells.length) (hseen : seen.Nodup)
    (h : readCells (Draft.of record seen) number columns cells = .ok draft) :
    ∃ other, Under (CellReads other) columns cells ∧ (columns.reduceOption ++ seen).Nodup ∧
      draft = Draft.of other (columns.reduceOption.reverse ++ seen) ∧
      Draft.of other seen = Draft.of record seen := by
  induction columns generalizing record cells seen number with
  | nil =>
    obtain rfl : cells = [] := List.length_eq_zero_iff.mp hlength.symm
    rw [readCells, Except.ok.injEq] at h
    · exact ⟨record, .nil, hseen, h.symm, rfl⟩
    all_goals simp
  | cons column? columns ih =>
    obtain ⟨cell, cells, rfl⟩ := List.exists_cons_of_length_eq_add_one hlength.symm
    have hrest : columns.length = cells.length := by simpa using hlength
    cases column? with
    | none =>
      rw [readCells] at h
      obtain ⟨other, hcells, hnodup, hdraft, hsame⟩ := ih hrest hseen h
      rw [List.reduceOption_cons_of_none]
      exact ⟨other, .cons (by simp) hcells, hnodup, hdraft, hsame⟩
    | some column =>
      rw [readCells, Draft.has_of] at h
      split at h
      · cases h
      next hhas =>
      have hnew : column ∉ seen := by simpa using hhas
      split at h
      · cases h
      next next hput =>
      obtain ⟨read, hread, rfl, hkept⟩ := Draft.exists_of_put hnew hput
      obtain ⟨other, hcells, hnodup, hdraft, hsame⟩ :=
        ih hrest (List.nodup_cons.mpr ⟨hnew, hseen⟩) h
      have hcell : CellReads other cell column :=
        hread.of_sameIn (Draft.sameIn_of_eq hsame.symm List.mem_cons_self)
      rw [List.reduceOption_cons_of_some, List.reverse_cons, List.append_assoc]
      refine ⟨other, .cons (by simpa using hcell) hcells, ?_, hdraft, ?_⟩
      · exact List.perm_middle.nodup_iff.mp hnodup
      · exact (Draft.of_eq_of_subset hsame fun _ => List.mem_cons_of_mem _).trans hkept

/-- Cells that are what they have to be are read, under columns of which none comes twice. -/
theorem exists_readCells {columns : List (Option Column)} {cells : List (List Char)}
    (hcells : Under Readable columns cells) (record : Record) {seen : List Column}
    (hnodup : (columns.reduceOption ++ seen).Nodup) (number : Nat) :
    ∃ draft, readCells (Draft.of record seen) number columns cells = .ok draft := by
  induction hcells generalizing record seen number with
  | nil => exact ⟨_, rfl⟩
  | @cons column? cell columns cells hcell _ ih =>
    cases column? with
    | none =>
      rw [List.reduceOption_cons_of_none] at hnodup
      rw [readCells]
      exact ih record hnodup (number + 1)
    | some column =>
      rw [List.reduceOption_cons_of_some] at hnodup
      have hnew : column ∉ seen := fun hmem =>
        (List.nodup_cons.mp hnodup).1 (List.mem_append_right _ hmem)
      obtain ⟨next, hput⟩ := (hcell column rfl).exists_put (Draft.of record seen)
      obtain ⟨read, -, rfl, -⟩ := Draft.exists_of_put hnew hput
      rw [readCells, Draft.has_of, if_neg (by simpa using hnew), hput]
      exact ih read (List.perm_middle.nodup_iff.mpr hnodup) (number + 1)

/-! ## Records -/

/-- Some record.  Which one it is does not matter where no column has been seen. -/
def someRecord : Record := ⟨"", "", ⟨0, .nan⟩, ⟨0, .nan⟩⟩

/-- Columns among which every column is once. -/
def Complete (columns : List (Option Column)) : Prop :=
  columns.reduceOption.Nodup ∧ ∀ column, column ∈ columns.reduceOption

section Records

variable {columns : List (Option Column)} {width : Nat} (hwidth : columns.length = width)
  {fields : List (List Char)}

include hwidth

/-- **A record is read** if and only if it is as wide as the header, every column is there once and the
cells read as its parts. -/
theorem readRecord_named_eq_ok_iff {record : Record} :
    readRecord (.named columns) width (fields.map Utf8.encode) = .ok record ↔
      fields.length = width ∧ Complete columns ∧
        Under (CellReads record) columns (fields.map Text.trim) := by
  constructor
  · intro h
    unfold readRecord at h
    rw [readTexts_encode, List.length_map] at h
    split at h
    · cases h
    next hfields =>
    rw [Decidable.not_not] at hfields
    simp only at h
    split at h
    · cases h
    next draft hread =>
    have hlength : columns.length = (fields.map Text.trim).length := by
      rw [hwidth, List.length_map, hfields]
    rw [← Draft.of_nil someRecord] at hread
    obtain ⟨other, hcells, hnodup, rfl, -⟩ := exists_of_readCells hlength List.nodup_nil hread
    have hfinish : (Draft.of other (columns.reduceOption.reverse ++ [])).finish = .ok record := by
      cases hcase : (Draft.of other (columns.reduceOption.reverse ++ [])).finish with
      | error column => rw [hcase] at h; cases h
      | ok found => rw [hcase] at h; simpa [Except.mapError] using h
    obtain ⟨hseen, rfl⟩ := Draft.finish_of_eq_ok_iff.mp hfinish
    rw [List.append_nil] at hnodup
    exact ⟨hfields, ⟨hnodup, fun column => by simpa using hseen column⟩, hcells⟩
  · rintro ⟨rfl, ⟨hnodup, hall⟩, hcells⟩
    exact readRecord_eq_ok hcells hnodup hall

/-- **A record can be read** if and only if it is as wide as the header, every column is there once and
the cells are what they have to be. -/
theorem exists_readRecord_iff :
    (∃ record, readRecord (.named columns) width (fields.map Utf8.encode) = .ok record) ↔
      fields.length = width ∧ Complete columns ∧
        Under Readable columns (fields.map Text.trim) := by
  constructor
  · rintro ⟨record, h⟩
    obtain ⟨hfields, hcomplete, hcells⟩ := (readRecord_named_eq_ok_iff hwidth).mp h
    exact ⟨hfields, hcomplete, hcells.imp fun _ _ hcell column hcolumn =>
      (hcell column hcolumn).readable⟩
  · rintro ⟨hfields, hcomplete, hcells⟩
    have hlength : columns.length = (fields.map Text.trim).length := by
      rw [hwidth, List.length_map, hfields]
    obtain ⟨draft, hread⟩ := exists_readCells hcells someRecord
      (by rw [List.append_nil]; exact hcomplete.1) 0
    obtain ⟨record, hcells, -⟩ := exists_of_readCells hlength List.nodup_nil hread
    exact ⟨record, (readRecord_named_eq_ok_iff hwidth).mpr ⟨hfields, hcomplete, hcells⟩⟩

end Records

/-! ## Headers -/

theorem ofName?_eq_some_iff {name : String} {column : Column} :
    Column.ofName? name = some column ↔ name = column.name := by
  constructor
  · intro h
    have hname := List.find?_some h
    exact (of_decide_eq_true hname).symm
  · rintro rfl
    cases column <;> decide

theorem ofName?_trim_eq_some_iff {name : List Char} {column : Column} :
    Column.ofName? (String.ofList (Text.trim name)) = some column ↔
      Text.trim name = column.name.toList := by
  rw [ofName?_eq_some_iff, ← String.toList_inj, String.toList_ofList]

/-- A column is found as often as its name stands in the header. -/
theorem count_reduceOption_columnsOf (names : List (List Char)) (column : Column) :
    (columnsOf names).reduceOption.count column =
      (names.map Text.trim).count column.name.toList := by
  induction names with
  | nil => rfl
  | cons name names ih =>
    have hcons : columnsOf (name :: names) =
        Column.ofName? (String.ofList (Text.trim name)) :: columnsOf names := rfl
    rw [hcons, List.map_cons, List.count_cons, ← ih]
    by_cases hname : Text.trim name = column.name.toList
    · rw [ofName?_trim_eq_some_iff.mpr hname, List.reduceOption_cons_of_some, List.count_cons_self,
        if_pos (by simpa using hname)]
    · have hother : Column.ofName? (String.ofList (Text.trim name)) ≠ some column :=
        fun h => hname (ofName?_trim_eq_some_iff.mp h)
      rw [if_neg (by simpa using hname), Nat.add_zero]
      cases hfound : Column.ofName? (String.ofList (Text.trim name)) with
      | none => rw [List.reduceOption_cons_of_none]
      | some found =>
        have hne : found ≠ column := fun heq => hother (heq ▸ hfound)
        rw [List.reduceOption_cons_of_some, List.count_cons_of_ne hne]

/-- **A header is complete** if and only if it has the name of every column once. -/
theorem complete_columnsOf_iff {names : List (List Char)} :
    Complete (columnsOf names) ↔
      ∀ column : Column, (names.map Text.trim).count column.name.toList = 1 := by
  unfold Complete
  simp only [← count_reduceOption_columnsOf]
  constructor
  · rintro ⟨hnodup, hall⟩ column
    exact List.nodup_iff_count_eq_one.mp hnodup column (hall column)
  · intro h
    refine ⟨List.nodup_iff_count_eq_one.mpr fun column _ => h column, fun column => ?_⟩
    exact List.count_pos_iff.mp (by rw [h column]; decide)

/-- Cells are asked for under the names of the columns. -/
theorem under_columnsOf_iff {ask : List Char → Column → Prop} {names row : List (List Char)} :
    Under ask (columnsOf names) (row.map Text.trim) ↔
      names.length = row.length ∧ ∀ name cell, (name, cell) ∈ names.zip row →
        ∀ column : Column, Text.trim name = column.name.toList → ask (Text.trim cell) column := by
  unfold Under columnsOf
  rw [List.forall₂_map_left_iff, List.forall₂_map_right_iff, List.forall₂_iff_zip]
  simp only [Option.mem_def, ofName?_trim_eq_some_iff]

/-! ## Tables -/

/-- Rows below a header that can be read as records. -/
structure Accepted (names : List (List Char)) (rows : List (List (List Char))) : Prop where
  /-- Every row has as many cells as the header. -/
  wide : ∀ row ∈ rows, row.length = names.length
  /-- If there is a row, every column is named once. -/
  named : rows ≠ [] → ∀ column : Column, (names.map Text.trim).count column.name.toList = 1
  /-- Under the names of the columns stand cells that are what they have to be. -/
  readable : ∀ row ∈ rows, ∀ name cell, (name, cell) ∈ names.zip row → ∀ column : Column,
    Text.trim name = column.name.toList → Readable (Text.trim cell) column

/-- Rows of which the first one is the header of a table and the others are its records. -/
def IsTable : List (List (List Char)) → Prop
  | [] => True
  | names :: rows => Accepted names rows

/-- Under the name of each column stands the part of a record. -/
def RowReads (names row : List (List Char)) (record : Record) : Prop :=
  ∀ column : Column, ∃ name cell, (name, cell) ∈ names.zip row ∧
    Text.trim name = column.name.toList ∧ CellReads record (Text.trim cell) column

/-- The records of a table, one for each row behind the header. -/
def TableReads : List (List (List Char)) → List Record → Prop
  | [], records => records = []
  | names :: rows, records => List.Forall₂ (RowReads names) rows records

theorem rowReads_of_under {names row : List (List Char)} {record : Record}
    (hcomplete : Complete (columnsOf names))
    (h : Under (CellReads record) (columnsOf names) (row.map Text.trim)) :
    RowReads names row record := by
  intro column
  obtain ⟨hlength, hcells⟩ := under_columnsOf_iff.mp h
  have hmem : column.name.toList ∈ names.map Text.trim :=
    List.count_pos_iff.mp (by rw [complete_columnsOf_iff.mp hcomplete column]; decide)
  obtain ⟨name, hname, htrim⟩ := List.mem_map.mp hmem
  obtain ⟨i, hi, rfl⟩ := List.mem_iff_getElem.mp hname
  have hrow : i < row.length := hlength ▸ hi
  have hpair : (names[i], row[i]) ∈ names.zip row :=
    List.mem_iff_getElem.mpr ⟨i, by rw [List.length_zip]; omega, List.getElem_zip⟩
  exact ⟨names[i], row[i], hpair, htrim, hcells _ _ hpair column htrim⟩

/-- A list is read if every item is. -/
theorem exists_forall₂ {α β : Type} {reads : α → β → Prop} {as : List α}
    (h : ∀ a ∈ as, ∃ b, reads a b) : ∃ bs, List.Forall₂ reads as bs := by
  induction as with
  | nil => exact ⟨[], .nil⟩
  | cons a as ih =>
    obtain ⟨b, hb⟩ := h a List.mem_cons_self
    obtain ⟨bs, hbs⟩ := ih fun a ha => h a (List.mem_cons_of_mem _ ha)
    exact ⟨b :: bs, .cons hb hbs⟩

theorem exists_of_forall₂ {α β : Type} {reads : α → β → Prop} {as : List α} {bs : List β}
    (h : List.Forall₂ reads as bs) : ∀ a ∈ as, ∃ b, reads a b := by
  induction h with
  | nil => simp
  | cons hb _ ih => exact List.forall_mem_cons.mpr ⟨⟨_, hb⟩, ih⟩

/-- Every row is read if and only if the rows are accepted. -/
theorem forall_exists_readRecord_iff {names : List (List Char)} {rows : List (List (List Char))} :
    (∀ row ∈ rows, ∃ record, readRecord (.named (columnsOf names)) names.length
      (row.map Utf8.encode) = .ok record) ↔ Accepted names rows := by
  have hwidth : (columnsOf names).length = names.length := List.length_map _
  simp only [exists_readRecord_iff hwidth, complete_columnsOf_iff, under_columnsOf_iff]
  constructor
  · intro h
    refine ⟨fun row hrow => (h row hrow).1, fun hne => ?_, fun row hrow => (h row hrow).2.2.2⟩
    obtain ⟨row, rest, rfl⟩ := List.exists_cons_of_ne_nil hne
    exact (h row List.mem_cons_self).2.1
  · intro h row hrow
    exact ⟨h.wide row hrow, h.named (List.ne_nil_of_mem hrow), (h.wide row hrow).symm,
      h.readable row hrow⟩

/-- Reading fails only as reading a table does. -/
theorem exists_message_of_read {file : Bytes} {failure : Failure}
    (h : read file = .error failure) : ∃ message, failure = .table message := by
  unfold read at h
  cases hrecords : records file with
  | error fault =>
    rw [hrecords] at h
    exact ⟨fault.message, (Except.error.inj h).symm⟩
  | ok found =>
    rw [hrecords] at h
    cases h

/-- A text is read if and only if its rows are a table. -/
theorem read_iff_of_rows {file : Bytes} {rows : List (List (List Char))}
    (hfields : (Csv.records file).map Csv.Record.fields = rows.map (List.map Utf8.encode)) :
    ((∃ records, read file = .ok records) ↔ IsTable rows) ∧
      ∀ records, read file = .ok records → TableReads rows records := by
  cases rows with
  | nil =>
    have hnone : Csv.records file = [] := List.map_eq_nil_iff.mp hfields
    have hread : read file = .ok [] := by
      unfold read Table.records
      rw [hnone]
      rfl
    exact ⟨⟨fun _ => trivial, fun _ => ⟨[], hread⟩⟩, fun records h =>
      (Except.ok.inj (hread.symm.trans h)).symm⟩
  | cons names rows =>
    have hwidth : (columnsOf names).length = names.length := List.length_map _
    constructor
    · rw [IsTable, ← forall_exists_readRecord_iff]
      simp only [read_eq_ok_iff hfields]
      exact ⟨fun ⟨records, h⟩ => exists_of_forall₂ h, exists_forall₂⟩
    · intro records h
      refine ((read_eq_ok_iff hfields).mp h).imp fun row record hrecord => ?_
      obtain ⟨-, hcomplete, hcells⟩ := (readRecord_named_eq_ok_iff hwidth).mp hrecord
      exact rowReads_of_under hcomplete hcells

/-- **A text is read as a table if and only if it is one.**  Every text has exactly one list of rows, and
what matters are these alone: if they are a table then each row behind the header gives the record in its
cells, and if they are not then nothing is read at all. -/
theorem reads_iff_isTable (text : List Char) :
    ∃ rows, (∀ others, Csv.AnyRows (Csv.unmarked text) others ↔ others = rows) ∧
      ((∃ records, read (Utf8.encode text) = .ok records) ↔ IsTable rows) ∧
      (∀ records, read (Utf8.encode text) = .ok records → TableReads rows records) ∧
      (¬IsTable rows → ∃ message, read (Utf8.encode text) = .error (.table message)) := by
  obtain ⟨rows, hrows⟩ := Csv.exists_anyRows (Csv.unmarked text)
  have hfields := (Csv.map_fields_records_iff text rows).mpr hrows
  obtain ⟨haccepted, hreads⟩ := read_iff_of_rows hfields
  refine ⟨rows, fun others => ?_, haccepted, hreads, fun hnot => ?_⟩
  · rw [← Csv.map_fields_records_iff, hfields]
    constructor
    · exact fun h => ((Utf8.encode_injective.list_map).list_map h).symm
    · rintro rfl
      rfl
  · cases hread : read (Utf8.encode text) with
    | ok records => exact absurd (haccepted.mp ⟨records, hread⟩) hnot
    | error failure =>
      obtain ⟨message, rfl⟩ := exists_message_of_read hread
      exact ⟨message, rfl⟩

end Table
end PlannerTrials
