import PlannerTrials.Proofs.Csv.Layout

/-!
# Every text has records

A text need not be well formed to have records.  A field between quotation marks may go on behind the
closing mark, and at the end of the text the closing mark may be missing.  `AnyField`, `AnyRecord` and
`AnyRows` are the grammar of this: they say how a field, a record and a whole text are spelled, with nothing
left out, so every text has rows of fields (`exists_anyRows`).  It has only one such list of rows, namely
the one that the reader finds in its bytes (`map_fields_records_iff`).

A reader of bytes could cut a character in two.  It does not, because it only cuts at bytes of ASCII, and so
the fields of a text are texts.

## Open quotations

A quotation that is never closed takes everything up to the end of the text.  The flag of a field or a
record says that its quotation is open, and an open record can only be the last one.
-/

namespace PlannerTrials
namespace Csv

/-! ## The grammar -/

/-- A character that ends a line. -/
def IsLineEnd (c : Char) : Prop := c = '\n' ∨ c = '\r'

/-- A text that can stand outside quotation marks behind the start of a field. -/
def IsPlainText (text : List Char) : Prop := ∀ c ∈ text, c ≠ ',' ∧ ¬IsLineEnd c

/-- How a field stands in a text. -/
inductive AnyField : Bool → List Char → List Char → Prop
  /-- As it is, if it does not start with a quotation mark. -/
  | bare {text : List Char} : text.head? ≠ some '"' → IsPlainText text →
      AnyField false text text
  /-- A quotation, and what follows its closing mark. -/
  | marked (quoted : List Char) {after : List Char} : after.head? ≠ some '"' →
      IsPlainText after → AnyField false ('"' :: doubled quoted ++ '"' :: after) (quoted ++ after)
  /-- A quotation that is not closed. -/
  | unclosed (quoted : List Char) : AnyField true ('"' :: doubled quoted) quoted

/-- How the fields of a record stand in a text. -/
inductive AnyRecord : Bool → List Char → List (List Char) → Prop
  | single {isOpen : Bool} {text field : List Char} : AnyField isOpen text field →
      AnyRecord isOpen text [field]
  | cons {isOpen : Bool} {text field more : List Char} {fields : List (List Char)} :
      AnyField false text field → AnyRecord isOpen more fields →
      AnyRecord isOpen (text ++ ',' :: more) (field :: fields)

/-- How the records of a text stand in it. -/
inductive AnyRows : List Char → List (List (List Char)) → Prop
  | nil : AnyRows [] []
  /-- The end of a line where a record could start is an empty line or belongs to the end before it. -/
  | skip {c : Char} {more : List Char} {rows : List (List (List Char))} : IsLineEnd c →
      AnyRows more rows → AnyRows (c :: more) rows
  /-- The last record need not end, and its quotation may be open. -/
  | last {isOpen : Bool} {text : List Char} {fields : List (List Char)} :
      AnyRecord isOpen text fields → text ≠ [] → AnyRows text [fields]
  | cons {c : Char} {text more : List Char} {fields : List (List Char)}
      {rows : List (List (List Char))} : AnyRecord false text fields → text ≠ [] → IsLineEnd c →
      AnyRows more rows → AnyRows (text ++ c :: more) (fields :: rows)

/-! ## Characters and bytes -/

theorem encode_cons_comma (cs : List Char) : Utf8.encode (',' :: cs) = comma :: Utf8.encode cs := by
  rw [← List.singleton_append, Utf8.encode_append, encode_comma, List.singleton_append]

theorem encode_cons_mark (cs : List Char) : Utf8.encode ('"' :: cs) = mark :: Utf8.encode cs := by
  rw [← List.singleton_append, Utf8.encode_append, encode_mark, List.singleton_append]

/-- A character that ends a line is a break. -/
theorem IsLineEnd.exists_break {c : Char} (h : IsLineEnd c) :
    ∃ b, isBreak b = true ∧ ∀ cs, Utf8.encode (c :: cs) = b :: Utf8.encode cs := by
  rcases h with rfl | rfl
  · exact ⟨lineFeed, rfl, fun _ => rfl⟩
  · exact ⟨carriageReturn, rfl, fun _ => rfl⟩

/-- The bytes of a text start with a quotation mark only if the text does. -/
theorem head?_encode_ne_mark {cs : List Char} (h : cs.head? ≠ some '"') :
    (Utf8.encode cs).head? ≠ some mark := by
  cases cs with
  | nil => simp
  | cons c cs =>
    intro hhead
    obtain ⟨first, tail, hbytes, -, -⟩ := Utf8.exists_start_encodeChar c
    rw [Utf8.encode_cons, hbytes, List.cons_append, List.head?_cons, Option.some.injEq] at hhead
    have hmem : mark ∈ String.utf8EncodeChar c := by
      rw [hbytes, hhead]
      exact List.mem_cons_self
    have hc : c = '"' := (Utf8.mem_encodeChar_ascii (n := 0x22) (by decide) c).mp hmem
    exact h (by rw [hc, List.head?_cons])

/-- The bytes of a plain text do not end a field. -/
theorem IsPlainText.encode {text : List Char} (h : IsPlainText text) :
    ∀ b ∈ Utf8.encode text, endsField b = false := by
  intro b hb
  rw [endsField, isBreak, Bool.or_eq_false_iff, Bool.or_eq_false_iff, beq_eq_false_iff_ne,
    beq_eq_false_iff_ne, beq_eq_false_iff_ne]
  refine ⟨?_, ?_, ?_⟩
  · rintro rfl
    exact (h _ ((comma_mem_encode text).mp hb)).1 rfl
  · rintro rfl
    exact (h _ ((lineFeed_mem_encode text).mp hb)).2 (.inl rfl)
  · rintro rfl
    exact (h _ ((carriageReturn_mem_encode text).mp hb)).2 (.inr rfl)

/-! ## The reader follows the grammar -/

section Reading

variable {isOpen : Bool} {tail rest : Bytes} {ending : Ending}

/-- Right behind a quotation the reader stands outside of quotation marks, unless a mark follows. -/
theorem readField_marked {bs : Bytes} (h : bs.head? ≠ some mark) :
    readField .marked bs = readField .bare bs := by
  cases bs with
  | nil => rfl
  | cons b bs =>
    have hb : b ≠ mark := fun heq => h (by rw [heq, List.head?_cons])
    rw [readField, readField]
    · simp [hb]
    · simp
    · simp

/-- **A field is read as its text**, up to what ends it. -/
theorem readWhole_anyField {text field : List Char} (h : AnyField isOpen text field)
    (hstop : Stop tail ending rest) (hopen : isOpen = true → tail = []) :
    readWhole (Utf8.encode text ++ tail) = (Utf8.encode field, ending, rest) := by
  cases h with
  | bare hhead hplain =>
    exact readWhole_fieldText (.bare _ (head?_encode_ne_mark hhead) hplain.encode) hstop
  | @marked quoted after hhead hplain =>
    have hbytes : Utf8.encode ('"' :: doubled quoted ++ '"' :: after) ++ tail =
        mark :: (doubledBytes (Utf8.encode quoted) ++
          mark :: (Utf8.encode after ++ tail)) := by
      rw [List.cons_append, encode_cons_mark, Utf8.encode_append, encode_doubled,
        encode_cons_mark, List.cons_append, List.append_assoc, List.cons_append]
    have hafter : (Utf8.encode after ++ tail).head? ≠ some mark := by
      cases hcases : Utf8.encode after with
      | nil => exact hstop.head_ne_mark
      | cons b bs =>
        have hne := head?_encode_ne_mark hhead
        rwa [hcases] at hne
    have hread : readField .quoted (mark :: (Utf8.encode after ++ tail)) =
        (Utf8.encode after, ending, rest) := by
      rw [readField, if_pos rfl, readField_marked hafter]
      exact readField_bare hplain.encode hstop
    rw [hbytes, readWhole, List.head?_cons, if_pos rfl, List.tail_cons, readField_doubledBytes,
      hread, Utf8.encode_append]
  | unclosed quoted =>
    obtain rfl := hopen rfl
    have hread : readField .quoted [] = ([], .file, []) := by rw [readField]
    cases hstop
    rw [List.append_nil, encode_cons_mark, encode_doubled, readWhole, List.head?_cons, if_pos rfl,
      List.tail_cons, ← List.append_nil (doubledBytes _), readField_doubledBytes, hread,
      List.append_nil]

/-- **A record is read as its fields**, up to what ends it. -/
theorem readFields_anyRecord {text : List Char} {fields : List (List Char)}
    (h : AnyRecord isOpen text fields) (hstop : Stop tail ending rest) (hending : ending ≠ .comma)
    (hopen : isOpen = true → tail = []) :
    readFields (Utf8.encode text ++ tail) = (fields.map Utf8.encode, rest) := by
  induction h with
  | single hfield =>
    have hwhole := readWhole_anyField hfield hstop hopen
    rw [readFields, dif_neg (by rw [hwhole]; exact hending), hwhole]
    rfl
  | @cons text field more fields hfield _ ih =>
    have hwhole := readWhole_anyField hfield (Stop.comma (Utf8.encode more ++ tail)) (by simp)
    rw [Utf8.encode_append, encode_cons_comma, List.append_assoc, List.cons_append, readFields,
      dif_pos (by rw [hwhole])]
    simp only [hwhole, ih, List.map_cons]

theorem AnyField.head_not_lineEnd {text field : List Char} (h : AnyField isOpen text field) :
    ∀ c ∈ text.head?, ¬IsLineEnd c := by
  intro c hc
  cases h with
  | bare _ hplain => exact (hplain c (List.mem_of_mem_head? hc)).2
  | marked | unclosed =>
    obtain rfl := Option.some.inj hc
    simp [IsLineEnd]

theorem AnyRecord.head_not_lineEnd {text : List Char} {fields : List (List Char)}
    (h : AnyRecord isOpen text fields) : ∀ c ∈ text.head?, ¬IsLineEnd c := by
  intro c hc
  cases h with
  | single hfield => exact hfield.head_not_lineEnd c hc
  | @cons text _ more _ hfield _ =>
    cases text with
    | nil =>
      obtain rfl := Option.some.inj hc
      simp [IsLineEnd]
    | cons d text => exact hfield.head_not_lineEnd c hc

/-- Only a character that ends a line has a break as its first byte. -/
theorem exists_encode_cons_of_not_lineEnd {c : Char} (h : ¬IsLineEnd c) (cs : List Char) :
    ∃ b bs, Utf8.encode (c :: cs) = b :: bs ∧ isBreak b = false := by
  obtain ⟨first, tail, hbytes, -, -⟩ := Utf8.exists_start_encodeChar c
  have hmem : first ∈ String.utf8EncodeChar c := by
    rw [hbytes]
    exact List.mem_cons_self
  refine ⟨first, tail ++ Utf8.encode cs, by rw [Utf8.encode_cons, hbytes, List.cons_append], ?_⟩
  rw [isBreak, Bool.or_eq_false_iff, beq_eq_false_iff_ne, beq_eq_false_iff_ne]
  constructor
  · rintro rfl
    exact h (.inl ((Utf8.mem_encodeChar_ascii (n := 0x0a) (by decide) c).mp hmem))
  · rintro rfl
    exact h (.inr ((Utf8.mem_encodeChar_ascii (n := 0x0d) (by decide) c).mp hmem))

theorem map_fields_recordsFrom_anyRecord {text : List Char} {fields : List (List Char)}
    (h : AnyRecord isOpen text fields) (hne : text ≠ []) (hstop : Stop tail ending rest)
    (hending : ending ≠ .comma) (hopen : isOpen = true → tail = []) (p : Position) :
    (recordsFrom p (Utf8.encode text ++ tail)).map Record.fields =
      fields.map Utf8.encode :: (recordsFrom p rest).map Record.fields := by
  have hread := readFields_anyRecord h hstop hending hopen
  obtain ⟨c, cs, rfl⟩ := List.exists_cons_of_ne_nil hne
  obtain ⟨b, bs, hbytes, hb⟩ := exists_encode_cons_of_not_lineEnd (h.head_not_lineEnd c rfl) cs
  rw [hbytes, List.cons_append] at hread ⊢
  exact map_fields_recordsFrom_of_readFields hb hread p p

/-- **The rows of a text are the records of its bytes.** -/
theorem map_fields_recordsFrom_anyRows {text : List Char} {rows : List (List (List Char))}
    (h : AnyRows text rows) (p : Position) :
    (recordsFrom p (Utf8.encode text)).map Record.fields = rows.map (List.map Utf8.encode) := by
  induction h with
  | nil => rw [Utf8.encode_nil, recordsFrom_nil, List.map_nil, List.map_nil]
  | skip hc _ ih =>
    obtain ⟨b, hb, hbytes⟩ := hc.exists_break
    rw [hbytes, map_fields_recordsFrom_break hb, ih]
  | @last isOpen text fields hrecord hne =>
    have hread := map_fields_recordsFrom_anyRecord hrecord hne Stop.file (by decide)
      (fun _ => rfl) p
    rw [List.append_nil] at hread
    rw [hread, recordsFrom_nil, List.map_nil, List.map_singleton]
  | cons hrecord hne hc _ ih =>
    obtain ⟨b, hb, hbytes⟩ := hc.exists_break
    rw [Utf8.encode_append, hbytes, map_fields_recordsFrom_anyRecord hrecord hne
      (Stop.break b _ hb) (by decide) (by simp) p, ih, List.map_cons]

end Reading

/-! ## Every text is spelled -/

/-- What ends a field, as a text. -/
def StartsWithEnd (tail : List Char) : Prop :=
  tail = [] ∨ ∃ c more, tail = c :: more ∧ (c = ',' ∨ IsLineEnd c)

/-- A text starts with a plain text that nothing can be added to. -/
theorem exists_plainText (text : List Char) :
    ∃ plain tail, text = plain ++ tail ∧ IsPlainText plain ∧ StartsWithEnd tail := by
  induction text with
  | nil => exact ⟨[], [], rfl, by simp [IsPlainText], .inl rfl⟩
  | cons c text ih =>
    by_cases hc : c = ',' ∨ IsLineEnd c
    · exact ⟨[], c :: text, rfl, by simp [IsPlainText], .inr ⟨c, text, rfl, hc⟩⟩
    · obtain ⟨plain, tail, rfl, hplain, htail⟩ := ih
      exact ⟨c :: plain, tail, rfl, List.forall_mem_cons.mpr ⟨not_or.mp hc, hplain⟩, htail⟩

theorem doubled_cons_mark (cs : List Char) : doubled ('"' :: cs) = '"' :: '"' :: doubled cs := rfl

theorem doubled_cons_of_ne {c : Char} (h : c ≠ '"') (cs : List Char) :
    doubled (c :: cs) = c :: doubled cs := by
  rw [doubled, List.flatMap_cons, if_neg h]
  rfl

/-- Behind a quotation mark the quotation is closed somewhere, or it is not. -/
theorem exists_doubled : ∀ text : List Char, ∃ quoted, text = doubled quoted ∨
    ∃ after, text = doubled quoted ++ '"' :: after ∧ after.head? ≠ some '"'
  | [] => ⟨[], .inl rfl⟩
  | c :: text => by
    by_cases hc : c = '"'
    · subst hc
      match text with
      | [] => exact ⟨[], .inr ⟨[], rfl, by simp⟩⟩
      | d :: text =>
        by_cases hd : d = '"'
        · subst hd
          obtain ⟨quoted, hopen | ⟨after, hclosed, hafter⟩⟩ := exists_doubled text
          · exact ⟨'"' :: quoted, .inl (by rw [doubled_cons_mark, hopen])⟩
          · exact ⟨'"' :: quoted, .inr ⟨after, by rw [doubled_cons_mark, hclosed]; rfl, hafter⟩⟩
        · exact ⟨[], .inr ⟨d :: text, rfl, by simpa using hd⟩⟩
    · obtain ⟨quoted, hopen | ⟨after, hclosed, hafter⟩⟩ := exists_doubled text
      · exact ⟨c :: quoted, .inl (by rw [doubled_cons_of_ne hc, hopen])⟩
      · exact ⟨c :: quoted, .inr ⟨after, by rw [doubled_cons_of_ne hc, hclosed]; rfl, hafter⟩⟩

/-- A text starts with a field, and behind a closed one stands what ends it. -/
theorem exists_anyField (text : List Char) :
    ∃ isOpen spelled field tail, text = spelled ++ tail ∧ AnyField isOpen spelled field ∧
      StartsWithEnd tail ∧ (isOpen = true → tail = []) := by
  by_cases hmark : text.head? = some '"'
  · obtain ⟨text, rfl⟩ := List.head?_eq_some_iff.mp hmark
    obtain ⟨quoted, rfl | ⟨after, rfl, hafter⟩⟩ := exists_doubled text
    · exact ⟨true, _, quoted, [], (List.append_nil _).symm, .unclosed quoted, .inl rfl,
        fun _ => rfl⟩
    · obtain ⟨plain, tail, rfl, hplain, htail⟩ := exists_plainText after
      have hhead : plain.head? ≠ some '"' := by
        cases plain with
        | nil => simp
        | cons c plain => exact hafter
      exact ⟨false, '"' :: doubled quoted ++ '"' :: plain, quoted ++ plain, tail, by simp,
        .marked quoted hhead hplain, htail, by simp⟩
  · obtain ⟨plain, tail, rfl, hplain, htail⟩ := exists_plainText text
    have hhead : plain.head? ≠ some '"' := by
      cases plain with
      | nil => simp
      | cons c plain => exact hmark
    exact ⟨false, plain, plain, tail, rfl, .bare hhead hplain, htail, by simp⟩

/-- A text starts with a record, and behind a closed one stands the end of its line. -/
theorem exists_anyRecord (text : List Char) :
    ∃ isOpen spelled fields tail, text = spelled ++ tail ∧ AnyRecord isOpen spelled fields ∧
      (tail = [] ∨ isOpen = false ∧ ∃ c more, tail = c :: more ∧ IsLineEnd c) := by
  induction hlength : text.length using Nat.strong_induction_on generalizing text with
  | _ n ih =>
    subst hlength
    obtain ⟨isOpen, spelled, field, tail, rfl, hfield, htail, hopen⟩ := exists_anyField text
    obtain rfl | ⟨c, more, rfl, rfl | hc⟩ := htail
    · exact ⟨isOpen, spelled, [field], [], rfl, .single hfield, .inl rfl⟩
    · obtain rfl : isOpen = false := by simpa using hopen
      have hshorter : more.length < (spelled ++ ',' :: more).length := by
        rw [List.length_append, List.length_cons]
        omega
      obtain ⟨isOpen, spelled', fields, tail, rfl, hrecord, htail⟩ := ih _ hshorter more rfl
      exact ⟨isOpen, spelled ++ ',' :: spelled', field :: fields, tail, by simp,
        .cons hfield hrecord, htail⟩
    · obtain rfl : isOpen = false := by simpa using hopen
      exact ⟨false, spelled, [field], c :: more, rfl, .single hfield,
        .inr ⟨rfl, c, more, rfl, hc⟩⟩

/-- **Every text has rows.** -/
theorem exists_anyRows (text : List Char) : ∃ rows, AnyRows text rows := by
  induction hlength : text.length using Nat.strong_induction_on generalizing text with
  | _ n ih =>
    subst hlength
    obtain ⟨isOpen, spelled, fields, tail, rfl, hrecord, htail⟩ := exists_anyRecord text
    by_cases hempty : spelled = []
    · -- nothing stands before the end of a line, so it is skipped
      subst hempty
      obtain rfl | ⟨-, c, more, rfl, hc⟩ := htail
      · exact ⟨[], .nil⟩
      · obtain ⟨rows, hrows⟩ := ih more.length (by simp) more rfl
        exact ⟨rows, .skip hc hrows⟩
    · obtain rfl | ⟨rfl, c, more, rfl, hc⟩ := htail
      · rw [List.append_nil]
        exact ⟨[fields], .last hrecord hempty⟩
      · have hshorter : more.length < (spelled ++ c :: more).length := by
          rw [List.length_append, List.length_cons]
          omega
        obtain ⟨rows, hrows⟩ := ih _ hshorter more rfl
        exact ⟨fields :: rows, .cons hrecord hempty hc hrows⟩

/-! ## The rows of a text -/

/-- A text without the mark of byte order before it. -/
def unmarked : List Char → List Char
  | [] => []
  | c :: cs => if c = byteOrderChar then cs else c :: cs

theorem encode_byteOrderChar : Utf8.encode [byteOrderChar] = byteOrderMark := by decide

/-- The reader skips the mark of byte order. -/
theorem map_fields_records_eq (text : List Char) :
    ∃ p, (records (Utf8.encode text)).map Record.fields =
      (recordsFrom p (Utf8.encode (unmarked text))).map Record.fields := by
  unfold records
  split
  · next hmark =>
    obtain ⟨cs, rfl⟩ := List.head?_eq_some_iff.mp (head?_of_byteOrderMark hmark)
    refine ⟨⟨0, 1, byteOrderMark.length⟩, ?_⟩
    rw [unmarked, if_pos rfl, ← List.singleton_append, Utf8.encode_append, encode_byteOrderChar,
      List.drop_left]
  · next hmark =>
    refine ⟨⟨0, 1, 0⟩, ?_⟩
    cases text with
    | nil => rfl
    | cons c cs =>
      have hc : c ≠ byteOrderChar := by
        rintro rfl
        refine hmark ?_
        rw [← List.singleton_append, Utf8.encode_append, encode_byteOrderChar,
          List.isPrefixOf_iff_prefix]
        exact List.prefix_append _ _
      rw [unmarked, if_neg hc]

/-- **The records that are read from a text are its rows**, and a text has no other rows. -/
theorem map_fields_records_iff (text : List Char) (rows : List (List (List Char))) :
    (records (Utf8.encode text)).map Record.fields = rows.map (List.map Utf8.encode) ↔
      AnyRows (unmarked text) rows := by
  obtain ⟨p, hp⟩ := map_fields_records_eq text
  rw [hp]
  constructor
  · intro h
    obtain ⟨rows', hrows'⟩ := exists_anyRows (unmarked text)
    have hsame := (map_fields_recordsFrom_anyRows hrows' p).symm.trans h
    have hinjective := (Utf8.encode_injective.list_map).list_map
    rwa [← hinjective hsame]
  · exact fun h => map_fields_recordsFrom_anyRows h p

end Csv
end PlannerTrials
