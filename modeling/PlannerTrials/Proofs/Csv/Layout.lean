import PlannerTrials.Proofs.Csv.Print
import PlannerTrials.Proofs.Text.Blank

/-!
# Layouts of a comma-separated text

The same cells may be laid out in many ways.  A cell stands as it is with spaces and tabs around it, or
between quotation marks with spaces and tabs inside them; each line ends in one of three ways, the last one
perhaps not at all; and there are any number of empty lines.  `CellText`, `LineText` and `LinesText` say so
for characters, with every choice made for each cell and each line by itself.

A reader of fields sees the spaces and tabs, so two layouts of a text have different fields.  Their trimmed
fields are the same, namely the trimmed texts of the cells (`exists_rows_of_linesText`).
-/

namespace PlannerTrials
namespace Csv

/-! ## The grammar -/

/-- Spaces and tabs. -/
def IsPad (pad : List Char) : Prop := ∀ c ∈ pad, c = ' ' ∨ c = '\t'

/-- How a cell may be laid out. -/
inductive CellText : List Char → List Char → Prop
  /-- As it is, with spaces and tabs around it. -/
  | bare {left text right : List Char} : IsPad left → IsPad right →
      (∀ c ∈ text, needsMarks c = false) → CellText (left ++ text ++ right) text
  /-- Between quotation marks, with its own marks doubled and spaces and tabs around it. -/
  | marked {left text right : List Char} : IsPad left → IsPad right →
      CellText ('"' :: (left ++ doubled text ++ right) ++ ['"']) text

/-- How a line of cells may be laid out. -/
inductive LineText : List Char → List (List Char) → Prop
  | single {cell text : List Char} : CellText cell text → LineText cell [text]
  | cons {cell text more : List Char} {texts : List (List Char)} : CellText cell text →
      LineText more texts → LineText (cell ++ ',' :: more) (text :: texts)

/-- How a line may end. -/
inductive LineEnd : List Char → Prop
  | lineFeed : LineEnd ['\n']
  | both : LineEnd ['\r', '\n']
  | carriageReturn : LineEnd ['\r']

/-- How lines of cells may be laid out. -/
inductive LinesText : List Char → List (List (List Char)) → Prop
  | nil : LinesText [] []
  | empty {ending more : List Char} {rows : List (List (List Char))} : LineEnd ending →
      LinesText more rows → LinesText (ending ++ more) rows
  /-- The last line need not end. -/
  | last {line : List Char} {texts : List (List Char)} : LineText line texts →
      LinesText line [texts]
  | cons {line ending more : List Char} {texts : List (List Char)}
      {rows : List (List (List Char))} : LineText line texts → LineEnd ending →
      LinesText more rows → LinesText (line ++ ending ++ more) (texts :: rows)

/-! ## Cells and lines -/

theorem IsPad.isBlank {pad : List Char} (h : IsPad pad) : ∀ c ∈ pad, Text.isBlank c = true := by
  intro c hc
  rcases h c hc with rfl | rfl <;> rfl

theorem IsPad.not_needsMarks {pad : List Char} (h : IsPad pad) :
    ∀ c ∈ pad, needsMarks c = false := by
  intro c hc
  rcases h c hc with rfl | rfl <;> rfl

theorem doubled_append (as bs : List Char) : doubled (as ++ bs) = doubled as ++ doubled bs :=
  List.flatMap_append

theorem IsPad.doubled_eq {pad : List Char} (h : IsPad pad) : doubled pad = pad := by
  induction pad with
  | nil => rfl
  | cons c pad ih =>
    have hc : c ≠ '"' := by
      rcases h c List.mem_cons_self with rfl | rfl <;> decide
    have hih := ih fun c hc => h c (List.mem_cons_of_mem _ hc)
    unfold doubled at hih ⊢
    rw [List.flatMap_cons, hih, if_neg hc, List.singleton_append]

/-- A cell is a field whose text is, trimmed, the one of the cell. -/
theorem exists_fieldText_of_cellText {cell text : List Char} (h : CellText cell text) :
    ∃ field, FieldText (Utf8.encode cell) (Utf8.encode field) ∧ Text.trim field = Text.trim text := by
  cases h with
  | @bare left _ right hleft hright htext =>
    refine ⟨left ++ text ++ right, fieldText_encode ?_, Text.trim_between hleft.isBlank hright.isBlank text⟩
    exact List.forall_mem_append.mpr
      ⟨List.forall_mem_append.mpr ⟨hleft.not_needsMarks, htext⟩, hright.not_needsMarks⟩
  | @marked left _ right hleft hright =>
    refine ⟨left ++ text ++ right, ?_, Text.trim_between hleft.isBlank hright.isBlank text⟩
    have hdoubled : left ++ doubled text ++ right = doubled (left ++ text ++ right) := by
      rw [doubled_append, doubled_append, hleft.doubled_eq, hright.doubled_eq]
    rw [hdoubled]
    exact fieldText_marked _

/-- A line is a record whose fields are, trimmed, the texts of its cells. -/
theorem exists_recordText_of_lineText {line : List Char} {texts : List (List Char)}
    (h : LineText line texts) :
    ∃ fields : List (List Char), RecordText (Utf8.encode line) (fields.map Utf8.encode) ∧
      fields.map Text.trim = texts.map Text.trim := by
  induction h with
  | single hcell =>
    obtain ⟨field, hfield, htrim⟩ := exists_fieldText_of_cellText hcell
    exact ⟨[field], RecordText.single hfield, by rw [List.map_singleton, htrim]; rfl⟩
  | @cons cell text more texts hcell _ ih =>
    obtain ⟨field, hfield, htrim⟩ := exists_fieldText_of_cellText hcell
    obtain ⟨fields, hfields, htrims⟩ := ih
    refine ⟨field :: fields, ?_, by rw [List.map_cons, List.map_cons, htrim, htrims]⟩
    rw [← List.singleton_append, Utf8.encode_append, Utf8.encode_append, encode_comma]
    exact RecordText.cons hfield hfields

/-- A line of two cells has a comma. -/
theorem encode_ne_nil_of_lineText {line : List Char} {texts : List (List Char)}
    (h : LineText line texts) (hwide : 2 ≤ texts.length) : Utf8.encode line ≠ [] := by
  cases h with
  | single hcell => exact absurd hwide (by simp)
  | @cons cell text more texts hcell hmore =>
    intro hnil
    have hcomma : comma ∈ Utf8.encode (cell ++ ',' :: more) :=
      (comma_mem_encode _).mpr (List.mem_append_right _ List.mem_cons_self)
    rw [hnil] at hcomma
    exact absurd hcomma List.not_mem_nil

/-! ## Texts of many lines -/

/-- The end of a line begins with a break, and what it has behind that is an empty line. -/
theorem LineEnd.exists_break {ending : List Char} (h : LineEnd ending) {more : Bytes}
    {records : List (List Bytes)} (hmore : Rows more records) :
    ∃ b rest, Utf8.encode ending ++ more = b :: rest ∧ isBreak b = true ∧ Rows rest records := by
  have hlineFeed : isBreak Csv.lineFeed = true := rfl
  have hreturn : isBreak Csv.carriageReturn = true := rfl
  cases h with
  | lineFeed => exact ⟨Csv.lineFeed, more, rfl, hlineFeed, hmore⟩
  | both => exact ⟨Csv.carriageReturn, Csv.lineFeed :: more, rfl, hreturn, Rows.skip hlineFeed hmore⟩
  | carriageReturn => exact ⟨Csv.carriageReturn, more, rfl, hreturn, hmore⟩

/-- **Lines of cells are records** whose fields are, trimmed, the texts of the cells. -/
theorem exists_rows_of_linesText {text : List Char} {rows : List (List (List Char))}
    (h : LinesText text rows) (hwide : ∀ texts ∈ rows, 2 ≤ texts.length) :
    ∃ records : List (List (List Char)),
      Rows (Utf8.encode text) (records.map (List.map Utf8.encode)) ∧
        records.map (List.map Text.trim) = rows.map (List.map Text.trim) := by
  induction h with
  | nil => exact ⟨[], Rows.nil, rfl⟩
  | empty hending _ ih =>
    obtain ⟨records, hrecords, htrim⟩ := ih hwide
    obtain ⟨b, rest, hbytes, hb, hrest⟩ := hending.exists_break hrecords
    refine ⟨records, ?_, htrim⟩
    rw [Utf8.encode_append, hbytes]
    exact Rows.skip hb hrest
  | last hline =>
    obtain ⟨fields, hfields, htrim⟩ := exists_recordText_of_lineText hline
    have hne := encode_ne_nil_of_lineText hline (hwide _ List.mem_cons_self)
    exact ⟨[fields], Rows.last hfields hne, by rw [List.map_singleton, htrim]; rfl⟩
  | cons hline hending _ ih =>
    rw [List.forall_mem_cons] at hwide
    obtain ⟨records, hrecords, htrims⟩ := ih hwide.2
    obtain ⟨fields, hfields, htrim⟩ := exists_recordText_of_lineText hline
    obtain ⟨b, rest, hbytes, hb, hrest⟩ := hending.exists_break hrecords
    refine ⟨fields :: records, ?_, by rw [List.map_cons, List.map_cons, htrim, htrims]⟩
    rw [Utf8.encode_append, Utf8.encode_append, List.append_assoc, hbytes]
    exact Rows.cons hfields (encode_ne_nil_of_lineText hline hwide.1) hb hrest

/-! ## The mark of byte order -/

/-- The character that is a mark of byte order at the start of a text. -/
def byteOrderChar : Char := '\ufeff'

/-- A text whose bytes begin with a mark of byte order begins with its character. -/
theorem head?_of_byteOrderMark {cs : List Char}
    (h : byteOrderMark.isPrefixOf (Utf8.encode cs) = true) : cs.head? = some byteOrderChar := by
  obtain ⟨rest, hrest⟩ := List.isPrefixOf_iff_prefix.mp h
  cases cs with
  | nil => cases hrest
  | cons c cs =>
    obtain ⟨first, tail, hbytes, -, hstart⟩ := Utf8.exists_start_encodeChar c
    rw [Utf8.encode_cons, hbytes, List.cons_append] at hrest
    obtain ⟨hfirst, htail⟩ := List.cons.inj hrest
    have hchar : Utf8.start 0xef ([0xbb, 0xbf] ++ rest) = .char byteOrderChar 2 := rfl
    have hread := hstart (Utf8.encode cs)
    rw [← hfirst, ← htail] at hread
    have hsame := hchar.symm.trans hread
    injection hsame with hc
    rw [List.head?_cons, hc]

/-- A cell begins as its text does, or with another character than the mark of byte order. -/
theorem CellText.head?_ne {cell text : List Char} (h : CellText cell text)
    (htext : text.head? ≠ some byteOrderChar) {more : List Char}
    (hmore : more.head? ≠ some byteOrderChar) : (cell ++ more).head? ≠ some byteOrderChar := by
  have hpad : ∀ {pad rest : List Char}, IsPad pad → rest.head? ≠ some byteOrderChar →
      (pad ++ rest).head? ≠ some byteOrderChar := by
    intro pad rest hpad hrest
    cases pad with
    | nil => exact hrest
    | cons c pad =>
      intro hhead
      obtain rfl := Option.some.inj hhead
      rcases hpad _ List.mem_cons_self with heq | heq <;> exact absurd heq (by decide)
  cases h with
  | bare hleft hright _ =>
    rw [List.append_assoc, List.append_assoc]
    refine hpad hleft ?_
    cases text with
    | nil =>
      rw [List.nil_append]
      exact hpad hright hmore
    | cons c text => exact htext
  | marked _ _ => exact fun hhead => absurd (Option.some.inj hhead) (by decide)

/-- **Lines do not begin with a mark of byte order** unless the text of their first cell does. -/
theorem LinesText.not_byteOrderMark {text : List Char} {texts : List (List Char)}
    {rows : List (List (List Char))} (h : LinesText text (texts :: rows))
    (hfirst : ∀ first ∈ texts.head?, first.head? ≠ some byteOrderChar) :
    byteOrderMark.isPrefixOf (Utf8.encode text) = false := by
  have hline : ∀ {line more : List Char}, LineText line texts → more.head? ≠ some byteOrderChar →
      (line ++ more).head? ≠ some byteOrderChar := by
    intro line more hline hmore
    cases hline with
    | single hcell => exact hcell.head?_ne (hfirst _ rfl) hmore
    | cons hcell _ =>
      rw [List.append_assoc]
      exact hcell.head?_ne (hfirst _ rfl) (fun hhead => absurd (Option.some.inj hhead) (by decide))
  have hending : ∀ {ending more : List Char}, LineEnd ending →
      (ending ++ more).head? ≠ some byteOrderChar := by
    intro ending more hending hhead
    cases hending <;> exact absurd (Option.some.inj hhead) (by decide)
  refine Bool.eq_false_iff.mpr fun hmark => ?_
  have hhead := head?_of_byteOrderMark hmark
  cases h with
  | empty hend _ => exact hending hend hhead
  | last hcells =>
    have hnone : ([] : List Char).head? ≠ some byteOrderChar := nofun
    refine hline hcells hnone ?_
    rw [List.append_nil]
    exact hhead
  | cons hcells hend _ =>
    rw [List.append_assoc] at hhead
    exact hline hcells (hending hend) hhead

end Csv
end PlannerTrials
