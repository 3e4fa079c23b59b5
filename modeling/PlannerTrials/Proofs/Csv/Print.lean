import PlannerTrials.Csv.Print
import PlannerTrials.Proofs.Csv.Token
import PlannerTrials.Proofs.Text.Utf8

/-!
# What is printed is well formed

Printing works on characters and reading on bytes.  They meet in UTF-8, where the bytes of ASCII stand for
themselves only: doubling the quotation marks of a text and encoding it commute
(`encode_doubled`), and a text without a comma, a quotation mark or a break has no such byte.

With this every printed record is a written record of `Csv.RecordText`, whatever its fields contain, and
printed records below each other are a text of `Csv.Rows`.  A record needs two fields for this, since
a single empty field is printed as an empty line.
-/

namespace PlannerTrials
namespace Csv

/-! ## Characters and bytes -/

theorem encode_comma : Utf8.encode [','] = [comma] := by decide

theorem encode_mark : Utf8.encode ['"'] = [mark] := by decide

theorem encode_lineFeed : Utf8.encode ['\n'] = [lineFeed] := by decide

theorem comma_mem_encode (cs : List Char) : comma ∈ Utf8.encode cs ↔ ',' ∈ cs :=
  Utf8.mem_encode_ascii (n := 0x2c) (by decide) cs

theorem mark_mem_encode (cs : List Char) : mark ∈ Utf8.encode cs ↔ '"' ∈ cs :=
  Utf8.mem_encode_ascii (n := 0x22) (by decide) cs

theorem lineFeed_mem_encode (cs : List Char) : lineFeed ∈ Utf8.encode cs ↔ '\n' ∈ cs :=
  Utf8.mem_encode_ascii (n := 0x0a) (by decide) cs

theorem carriageReturn_mem_encode (cs : List Char) :
    carriageReturn ∈ Utf8.encode cs ↔ '\r' ∈ cs :=
  Utf8.mem_encode_ascii (n := 0x0d) (by decide) cs

theorem doubledBytes_append (as bs : Bytes) :
    doubledBytes (as ++ bs) = doubledBytes as ++ doubledBytes bs :=
  List.flatMap_append

theorem doubledBytes_of_not_mem {bs : Bytes} (h : mark ∉ bs) : doubledBytes bs = bs := by
  induction bs with
  | nil => rfl
  | cons b bs ih =>
    rw [List.mem_cons, not_or] at h
    have hih := ih h.2
    unfold doubledBytes at hih ⊢
    rw [List.flatMap_cons, hih, if_neg (Ne.symm h.1), List.singleton_append]

/-- Doubling the quotation marks of a text doubles those of its bytes. -/
theorem encode_doubled (cs : List Char) :
    Utf8.encode (doubled cs) = doubledBytes (Utf8.encode cs) := by
  induction cs with
  | nil => rfl
  | cons c cs ih =>
    have hcons : doubled (c :: cs) = (if c = '"' then ['"', '"'] else [c]) ++ doubled cs :=
      List.flatMap_cons
    have hbytes : doubledBytes (Utf8.encode (c :: cs)) =
        doubledBytes (Utf8.encode [c]) ++ doubledBytes (Utf8.encode cs) := by
      rw [← doubledBytes_append, ← Utf8.encode_append, List.singleton_append]
    rw [hcons, Utf8.encode_append, ih, hbytes]
    congr 1
    by_cases hc : c = '"'
    · subst hc
      decide
    · rw [if_neg hc, doubledBytes_of_not_mem]
      rw [mark_mem_encode, List.mem_singleton]
      exact fun h => hc h.symm

/-! ## Printed fields and records -/

/-- A text without a character that needs quotation marks may stand as it is. -/
theorem fieldText_encode {cs : List Char} (h : ∀ c ∈ cs, needsMarks c = false) :
    FieldText (Utf8.encode cs) (Utf8.encode cs) := by
  have hnot : ∀ c, needsMarks c = true → c ∉ cs := fun c hc hmem => by
    rw [h c hmem] at hc
    exact absurd hc Bool.false_ne_true
  apply FieldText.bare
  · intro hhead
    exact hnot '"' rfl ((mark_mem_encode cs).mp (List.mem_of_mem_head? hhead))
  · intro b hb
    rw [endsField, isBreak, Bool.or_eq_false_iff, Bool.or_eq_false_iff, beq_eq_false_iff_ne,
      beq_eq_false_iff_ne, beq_eq_false_iff_ne]
    refine ⟨?_, ?_, ?_⟩
    · rintro rfl
      exact hnot ',' rfl ((comma_mem_encode cs).mp hb)
    · rintro rfl
      exact hnot '\n' rfl ((lineFeed_mem_encode cs).mp hb)
    · rintro rfl
      exact hnot '\r' rfl ((carriageReturn_mem_encode cs).mp hb)

/-- Any text may stand between quotation marks. -/
theorem fieldText_marked (cs : List Char) :
    FieldText (Utf8.encode ('"' :: doubled cs ++ ['"'])) (Utf8.encode cs) := by
  have htext : Utf8.encode ('"' :: doubled cs ++ ['"']) =
      mark :: doubledBytes (Utf8.encode cs) ++ [mark] := by
    rw [← List.singleton_append, Utf8.encode_append, Utf8.encode_append, encode_mark,
      encode_doubled]
    rfl
  rw [htext]
  exact FieldText.marked _

/-- A printed field is a written field. -/
theorem fieldText_printField (cs : List Char) :
    FieldText (Utf8.encode (printField cs)) (Utf8.encode cs) := by
  unfold printField
  split
  · exact fieldText_marked cs
  · next h =>
    apply fieldText_encode
    intro c hc
    by_contra hneeds
    exact h (List.any_eq_true.mpr ⟨c, hc, by simpa using hneeds⟩)

/-- The fields of a record with commas between them. -/
def joined (fields : List (List Char)) : List Char := [','].intercalate (fields.map printField)

theorem printRecord_eq (fields : List (List Char)) : printRecord fields = joined fields ++ ['\n'] :=
  rfl

theorem joined_cons {field : List Char} {fields : List (List Char)} (h : fields ≠ []) :
    joined (field :: fields) = printField field ++ ',' :: joined fields := by
  unfold joined
  rw [List.map_cons, List.intercalate_cons_of_ne_nil (by simpa using h)]
  simp

/-- A printed record is a written record. -/
theorem recordText_joined {fields : List (List Char)} (h : fields ≠ []) :
    RecordText (Utf8.encode (joined fields)) (fields.map Utf8.encode) := by
  induction fields with
  | nil => exact absurd rfl h
  | cons field fields ih =>
    by_cases hnil : fields = []
    · subst hnil
      have hone : joined [field] = printField field := List.intercalate_singleton
      rw [hone]
      exact RecordText.single (fieldText_printField field)
    · have htext : Utf8.encode (joined (field :: fields)) =
          Utf8.encode (printField field) ++ comma :: Utf8.encode (joined fields) := by
        rw [joined_cons hnil, ← List.singleton_append, Utf8.encode_append, Utf8.encode_append,
          encode_comma]
        rfl
      rw [htext]
      exact RecordText.cons (fieldText_printField field) (ih hnil)

theorem encode_joined_ne_nil {fields : List (List Char)} (h : 2 ≤ fields.length) :
    Utf8.encode (joined fields) ≠ [] := by
  match fields, h with
  | field :: more :: fields, _ =>
    intro hnil
    have hcomma : ',' ∈ joined (field :: more :: fields) := by
      rw [joined_cons (List.cons_ne_nil _ _)]
      exact List.mem_append_right _ List.mem_cons_self
    rw [← comma_mem_encode, hnil] at hcomma
    exact absurd hcomma List.not_mem_nil

/-! ## Printed texts -/

/-- **Printed records are a written text.** -/
theorem rows_printRecord {records : List (List (List Char))}
    (h : ∀ fields ∈ records, 2 ≤ fields.length) :
    Rows (Utf8.encode (records.flatMap printRecord)) (records.map (List.map Utf8.encode)) := by
  induction records with
  | nil => exact Rows.nil
  | cons fields records ih =>
    have hwide := h fields List.mem_cons_self
    have hne : fields ≠ [] := by
      rintro rfl
      exact absurd hwide (by decide)
    have htext : Utf8.encode ((fields :: records).flatMap printRecord) =
        Utf8.encode (joined fields) ++
          lineFeed :: Utf8.encode (records.flatMap printRecord) := by
      rw [List.flatMap_cons, printRecord_eq, Utf8.encode_append, Utf8.encode_append,
        encode_lineFeed, List.append_assoc, List.singleton_append]
    rw [htext, List.map_cons]
    exact Rows.cons (recordText_joined hne) (encode_joined_ne_nil hwide) (by decide)
      (ih fun fields hfields => h fields (List.mem_cons_of_mem _ hfields))

/-- Records of one width are never refused. -/
theorem printWide_eq_ok {width : Nat} {records : List (List (List Char))}
    (h : ∀ fields ∈ records, fields.length = width) :
    printWide width records = .ok (records.flatMap printRecord) := by
  induction records with
  | nil => rfl
  | cons fields records ih =>
    rw [printWide, if_pos (h fields List.mem_cons_self),
      ih fun fields hfields => h fields (List.mem_cons_of_mem _ hfields)]
    rfl

end Csv
end PlannerTrials
