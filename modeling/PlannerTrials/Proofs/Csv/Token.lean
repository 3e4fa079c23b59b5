import PlannerTrials.Csv.Token

/-!
# Texts that the reader of records understands

The reader of comma-separated text takes any bytes at all.  This module says which bytes are
*written records*, in every way a program may write them, and that the reader returns exactly the fields
that were written.

## The grammar

`FieldText`, `RecordText` and `Rows` describe a field, a record and a whole text.  A field stands
as it is, if no comma, break or quotation mark at its start is in the way, or between quotation
marks with its own marks doubled, which is always possible.  A record has its fields with commas
between them.  A text has its records with a break behind each of them, where the last break may be
missing, and with any number of further breaks before and between them.

A record of a single empty field that is not marked is not a text of its own: it cannot be told from an
empty line.  This is the reason why `Rows` asks its records to have a byte.
-/

namespace PlannerTrials
namespace Csv

/-! ## Fields -/

/-- Bytes with their quotation marks doubled. -/
def doubledBytes (field : Bytes) : Bytes :=
  field.flatMap fun b => if b = mark then [mark, mark] else [b]

/-- A byte by which a field outside quotation marks ends. -/
def endsField (b : UInt8) : Bool := b == comma || isBreak b

/-- How a field may be written. -/
inductive FieldText : Bytes → Bytes → Prop where
  /-- As it is. -/
  | bare (field : Bytes) : field.head? ≠ some mark → (∀ b ∈ field, endsField b = false) →
      FieldText field field
  /-- Between quotation marks. -/
  | marked (field : Bytes) : FieldText (mark :: doubledBytes field ++ [mark]) field

/-- What a text after a field begins with. -/
inductive Stop : Bytes → Ending → Bytes → Prop where
  | file : Stop [] .file []
  | comma (rest : Bytes) : Stop (comma :: rest) .comma rest
  | break (b : UInt8) (rest : Bytes) : isBreak b = true → Stop (b :: rest) .break rest

theorem not_isBreak_comma : isBreak comma = false := by decide

theorem not_isBreak_mark : isBreak mark = false := by decide

section Fields

variable {tail rest : Bytes} {ending : Ending}

theorem Stop.head_ne_mark (h : Stop tail ending rest) : tail.head? ≠ some mark := by
  cases h with
  | file => simp
  | comma rest => simp [Csv.comma, mark]
  | «break» b rest hb =>
    intro heq
    rw [Option.some.inj heq, not_isBreak_mark] at hb
    exact absurd hb Bool.false_ne_true

/-- Outside quotation marks a field ends where one of its endings stands. -/
theorem readField_stop {mode : Mode} (hmode : mode ≠ .quoted) (h : Stop tail ending rest) :
    readField mode tail = ([], ending, rest) := by
  cases h with
  | file => cases mode <;> rfl
  | comma rest => cases mode <;> first | rfl | exact absurd rfl hmode
  | «break» b rest hb =>
    have hcomma : b ≠ comma := by
      rintro rfl
      exact absurd hb (by decide)
    cases mode with
    | quoted => exact absurd rfl hmode
    | bare => rw [readField, if_neg hcomma, if_pos hb]; simp
    | marked => rw [readField, if_neg hcomma, if_pos hb]; simp

theorem readField_bare {field : Bytes} (hfield : ∀ b ∈ field, endsField b = false)
    (h : Stop tail ending rest) : readField .bare (field ++ tail) = (field, ending, rest) := by
  induction field with
  | nil => exact readField_stop (by decide) h
  | cons b field ih =>
    have hb := hfield b List.mem_cons_self
    rw [endsField, Bool.or_eq_false_iff, beq_eq_false_iff_ne] at hb
    have hih := ih fun b hb => hfield b (List.mem_cons_of_mem _ hb)
    rw [List.cons_append, readField, if_neg hb.1, hb.2]
    · simp [hih]
    · simp

/-- Between quotation marks a doubled mark stands for one, and everything else for itself. -/
theorem readField_doubledBytes (field more : Bytes) :
    readField .quoted (doubledBytes field ++ more) =
      (field ++ (readField .quoted more).1, (readField .quoted more).2) := by
  induction field with
  | nil => rfl
  | cons b field ih =>
    by_cases hb : b = mark
    · subst hb
      show readField .quoted (mark :: mark :: (doubledBytes field ++ more)) = _
      rw [readField, if_pos rfl, readField, if_neg (by decide), not_isBreak_mark]
      · simp [ih]
      · simp
    · have hbytes : doubledBytes (b :: field) = b :: doubledBytes field := by
        rw [doubledBytes, List.flatMap_cons, if_neg hb]
        rfl
      rw [hbytes, List.cons_append, readField, if_neg hb, ih]
      rfl

theorem readField_quoted (field : Bytes) (h : Stop tail ending rest) :
    readField .quoted (doubledBytes field ++ mark :: tail) = (field, ending, rest) := by
  rw [readField_doubledBytes, readField, if_pos rfl, readField_stop (by decide) h, List.append_nil]

/-- **A written field is read as what it was written from.** -/
theorem readWhole_fieldText {text field : Bytes} (htext : FieldText text field)
    (h : Stop tail ending rest) : readWhole (text ++ tail) = (field, ending, rest) := by
  unfold readWhole
  cases htext with
  | bare _ hhead hfield =>
    rw [if_neg, readField_bare hfield h]
    cases text with
    | nil => exact h.head_ne_mark
    | cons b text => exact hhead
  | marked =>
    have hread := readField_quoted field h
    rw [List.cons_append, List.cons_append, List.append_assoc, List.head?_cons, if_pos rfl]
    exact hread

end Fields

/-! ## Records -/

/-- How the fields of a record may be written. -/
inductive RecordText : Bytes → List Bytes → Prop where
  | single {text field : Bytes} : FieldText text field → RecordText text [field]
  | cons {text field more : Bytes} {fields : List Bytes} : FieldText text field →
      RecordText more fields → RecordText (text ++ comma :: more) (field :: fields)

theorem FieldText.head_not_isBreak {text field : Bytes} (h : FieldText text field) :
    ∀ b ∈ text.head?, isBreak b = false := by
  intro b hb
  cases h with
  | bare _ _ hfield =>
    have hends := hfield b (List.mem_of_mem_head? hb)
    rw [endsField, Bool.or_eq_false_iff] at hends
    exact hends.2
  | marked =>
    rw [← Option.some.inj hb]
    exact not_isBreak_mark

theorem RecordText.head_not_isBreak {text : Bytes} {fields : List Bytes}
    (h : RecordText text fields) : ∀ b ∈ text.head?, isBreak b = false := by
  intro b hb
  cases h with
  | single hfield => exact hfield.head_not_isBreak b hb
  | @cons text _ more _ hfield _ =>
    cases text with
    | nil =>
      rw [← Option.some.inj hb]
      exact not_isBreak_comma
    | cons c text => exact hfield.head_not_isBreak b hb

/-- **A written record is read as its fields**, up to the break or the end behind it. -/
theorem readFields_recordText {text tail rest : Bytes} {fields : List Bytes} {ending : Ending}
    (htext : RecordText text fields) (h : Stop tail ending rest) (hending : ending ≠ .comma) :
    readFields (text ++ tail) = (fields, rest) := by
  induction htext with
  | single hfield =>
    have hwhole := readWhole_fieldText hfield h
    rw [readFields, dif_neg (by rw [hwhole]; exact hending), hwhole]
  | @cons text field more fields hfield _ ih =>
    have hwhole := readWhole_fieldText hfield (Stop.comma (more ++ tail))
    rw [List.append_assoc, List.cons_append, readFields, dif_pos (by rw [hwhole])]
    simp only [hwhole, ih]

/-! ## Texts of many records -/

/-- How records may be written below each other. -/
inductive Rows : Bytes → List (List Bytes) → Prop where
  | nil : Rows [] []
  /-- A break where a record could start is an empty line or belongs to the break before it. -/
  | skip {b : UInt8} {more : Bytes} {records : List (List Bytes)} : isBreak b = true →
      Rows more records → Rows (b :: more) records
  /-- The break behind the last record may be missing. -/
  | last {text : Bytes} {fields : List Bytes} : RecordText text fields → text ≠ [] →
      Rows text [fields]
  | cons {b : UInt8} {text more : Bytes} {fields : List Bytes} {records : List (List Bytes)} :
      RecordText text fields → text ≠ [] → isBreak b = true → Rows more records →
      Rows (text ++ b :: more) (fields :: records)

@[simp] theorem recordsFrom_nil (p : Position) : recordsFrom p [] = [] := by
  rw [recordsFrom, List.dropWhile_nil, dif_pos rfl]

/-- Where a text starts does not change its fields. -/
theorem map_fields_recordsFrom (p q : Position) (bs : Bytes) :
    (recordsFrom p bs).map Record.fields = (recordsFrom q bs).map Record.fields := by
  fun_induction recordsFrom p bs generalizing q with
  | case1 p bs hnil => rw [recordsFrom, dif_pos hnil]
  | case2 p bs hne rest next ih =>
    rw [recordsFrom.eq_def q, dif_neg hne]
    simp only [List.map_cons]
    exact congrArg _ (ih _)

/-- A break where a record could start changes nothing. -/
theorem map_fields_recordsFrom_break {b : UInt8} (hb : isBreak b = true) (bs : Bytes)
    (p : Position) :
    (recordsFrom p (b :: bs)).map Record.fields = (recordsFrom p bs).map Record.fields := by
  rw [recordsFrom.eq_def p, recordsFrom.eq_def p]
  have hdrop : (b :: bs).dropWhile isBreak = bs.dropWhile isBreak :=
    List.dropWhile_cons_of_pos hb
  by_cases hnil : bs.dropWhile isBreak = []
  · rw [dif_pos (hdrop.trans hnil), dif_pos hnil]
  · rw [dif_neg (by rw [hdrop]; exact hnil), dif_neg hnil]
    simp only [hdrop, List.map_cons]
    rw [map_fields_recordsFrom]

/-- Behind the fields of a record the next records are read. -/
theorem map_fields_recordsFrom_of_readFields {b : UInt8} {bs rest : Bytes} {fields : List Bytes}
    (hb : isBreak b = false) (hread : readFields (b :: bs) = (fields, rest)) (p q : Position) :
    (recordsFrom p (b :: bs)).map Record.fields =
      fields :: (recordsFrom q rest).map Record.fields := by
  have hdrop : (b :: bs).dropWhile isBreak = b :: bs :=
    List.dropWhile_cons_of_neg (by simp [hb])
  rw [recordsFrom, dif_neg (by rw [hdrop]; exact List.cons_ne_nil _ _)]
  simp only [hdrop, hread, List.map_cons]
  rw [map_fields_recordsFrom _ q]

/-- Records are read one after the other. -/
theorem map_fields_recordsFrom_append {text tail rest : Bytes} {fields : List Bytes}
    {ending : Ending} (htext : RecordText text fields) (hne : text ≠ [])
    (h : Stop tail ending rest) (hending : ending ≠ .comma) (p q : Position) :
    (recordsFrom p (text ++ tail)).map Record.fields =
      fields :: (recordsFrom q rest).map Record.fields := by
  obtain ⟨b, text', rfl⟩ := List.exists_cons_of_ne_nil hne
  exact map_fields_recordsFrom_of_readFields (htext.head_not_isBreak b rfl)
    (readFields_recordText htext h hending) p q

/-- **Written records are read as their fields**, from wherever they start. -/
theorem map_fields_recordsFrom_rows {text : Bytes} {records : List (List Bytes)}
    (h : Rows text records) (p : Position) : (recordsFrom p text).map Record.fields = records := by
  induction h generalizing p with
  | nil => rw [recordsFrom_nil, List.map_nil]
  | skip hb _ ih => rw [map_fields_recordsFrom_break hb, ih p]
  | @last text fields htext hne =>
    have hread := map_fields_recordsFrom_append htext hne Stop.file (by decide) p p
    rw [List.append_nil] at hread
    rw [hread, recordsFrom_nil, List.map_nil]
  | cons htext hne hb _ ih =>
    rw [map_fields_recordsFrom_append htext hne (Stop.break _ _ hb) (by decide) p p, ih]

/-- **A written text is read as its records**, if it does not start with a mark of byte order. -/
theorem map_fields_records {text : Bytes} {rows : List (List Bytes)} (h : Rows text rows)
    (hmark : byteOrderMark.isPrefixOf text = false) : (records text).map Record.fields = rows := by
  rw [records, if_neg (by rw [hmark]; exact Bool.false_ne_true)]
  exact map_fields_recordsFrom_rows h _

end Csv
end PlannerTrials
