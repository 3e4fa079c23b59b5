import PlannerTrials.Text.Utf8

/-!
# Records of a comma-separated text

A text is cut into records and a record into fields on the level of bytes, since a field need not be
valid text.  A record ends with a line feed, a carriage return or the end of the text; breaks before
a record are skipped, so an empty line is no record and the line feed after a carriage return does no
harm.  A field that starts with a quotation mark reaches to the next single one, and a doubled mark
inside stands for one; what follows the closing mark up to the next comma or break belongs to the
field as it is.

Each record knows its `Position`: its number, and how many bytes and line feeds had been consumed
before its reading began.  The breaks that are skipped before a record therefore count for the
record.
-/

namespace PlannerTrials.Csv

/-- The comma. -/
def comma : UInt8 := 0x2c

/-- The quotation mark. -/
def mark : UInt8 := 0x22

/-- The line feed. -/
def lineFeed : UInt8 := 0x0a

/-- The carriage return. -/
def carriageReturn : UInt8 := 0x0d

/-- Whether a byte ends a record. -/
def isBreak (b : UInt8) : Bool := b == lineFeed || b == carriageReturn

/-- Where in a field the reader stands. -/
inductive Mode where
  /-- Outside quotation marks. -/
  | bare
  /-- Inside quotation marks. -/
  | quoted
  /-- Right after a quotation mark that ends the quotation or is the first of a doubled one. -/
  | marked
  deriving DecidableEq, Repr

/-- What ends a field. -/
inductive Ending where
  | comma
  | break
  | file
  deriving DecidableEq, Repr

/-- Reads a field to its end and returns it with its ending and what follows. -/
def readField : Mode → Bytes → Bytes × Ending × Bytes
  | _, [] => ([], .file, [])
  | .quoted, b :: rest =>
    if b = mark then readField .marked rest
    else
      let (field, after) := readField .quoted rest
      (b :: field, after)
  | mode, b :: rest =>
    if b = comma then ([], .comma, rest)
    else if isBreak b then ([], .break, rest)
    else
      let next := if mode = .marked ∧ b = mark then Mode.quoted else .bare
      let (field, after) := readField next rest
      (b :: field, after)

/-- What follows a field is not longer than what it was read from. -/
theorem length_readField (mode : Mode) (bs : Bytes) :
    (readField mode bs).2.2.length ≤ bs.length := by
  fun_induction readField mode bs <;> simp_all <;> omega

/-- The comma or break that ends a field is not part of what follows. -/
theorem length_readField_lt {mode : Mode} {bs : Bytes} (h : (readField mode bs).2.1 ≠ .file) :
    (readField mode bs).2.2.length < bs.length := by
  fun_induction readField mode bs <;> simp_all <;> omega

/-- Nothing follows a field that the end of the text ends. -/
theorem readField_rest {mode : Mode} {bs : Bytes} (h : (readField mode bs).2.1 = .file) :
    (readField mode bs).2.2 = [] := by
  fun_induction readField mode bs <;> simp_all

/-- Reads a field from its start. -/
def readWhole (bs : Bytes) : Bytes × Ending × Bytes :=
  if bs.head? = some mark then readField .quoted bs.tail else readField .bare bs

theorem length_readWhole (bs : Bytes) : (readWhole bs).2.2.length ≤ bs.length := by
  unfold readWhole
  split
  · have := length_readField .quoted bs.tail
    rw [List.length_tail] at this
    omega
  · exact length_readField .bare bs

theorem length_readWhole_lt {bs : Bytes} (h : (readWhole bs).2.1 ≠ .file) :
    (readWhole bs).2.2.length < bs.length := by
  unfold readWhole at h ⊢
  split at h
  · have := length_readField_lt h
    rw [List.length_tail] at this
    rw [if_pos ‹_›]
    omega
  · rw [if_neg ‹_›]
    exact length_readField_lt h

theorem readWhole_rest {bs : Bytes} (h : (readWhole bs).2.1 = .file) :
    (readWhole bs).2.2 = [] := by
  unfold readWhole at h ⊢
  split at h
  · rw [if_pos ‹_›]
    exact readField_rest h
  · rw [if_neg ‹_›]
    exact readField_rest h

/-- Reads the fields of one record and returns them with what follows. -/
def readFields (bs : Bytes) : List Bytes × Bytes :=
  if _h : (readWhole bs).2.1 = .comma then
    let more := readFields (readWhole bs).2.2
    ((readWhole bs).1 :: more.1, more.2)
  else ([(readWhole bs).1], (readWhole bs).2.2)
termination_by bs.length
decreasing_by exact length_readWhole_lt (by simp [_h])

theorem length_readFields (bs : Bytes) : (readFields bs).2.length ≤ bs.length := by
  fun_induction readFields bs with
  | case1 bs h more ih => exact Nat.le_trans ih (length_readWhole bs)
  | case2 bs h => exact length_readWhole bs

theorem length_readFields_lt {bs : Bytes} (hne : bs ≠ []) :
    (readFields bs).2.length < bs.length := by
  rw [readFields]
  split
  · rename_i h
    exact Nat.lt_of_le_of_lt (length_readFields _) (length_readWhole_lt (by simp [h]))
  · by_cases hend : (readWhole bs).2.1 = .file
    · rw [readWhole_rest hend]
      exact List.length_pos_iff.mpr hne
    · exact length_readWhole_lt hend

/-- Where a record starts. -/
structure Position where
  /-- The number of the record, from zero. -/
  record : Nat
  /-- The number of the line, from one. -/
  line : Nat
  /-- The number of bytes before it. -/
  byte : Nat
  deriving DecidableEq, Repr

/-- A record: its fields, and where it starts. -/
structure Record where
  position : Position
  fields : List Bytes
  deriving DecidableEq, Repr

/-- How many line feeds stand in a text. -/
def lineFeeds (bs : Bytes) : Nat := bs.count lineFeed

/-- The records of a text that starts at a position. -/
def recordsFrom (position : Position) (bs : Bytes) : List Record :=
  if _hne : bs.dropWhile isBreak = [] then []
  else
    let rest := (readFields (bs.dropWhile isBreak)).2
    let next : Position :=
      ⟨position.record + 1, position.line + (lineFeeds bs - lineFeeds rest),
        position.byte + (bs.length - rest.length)⟩
    ⟨position, (readFields (bs.dropWhile isBreak)).1⟩ :: recordsFrom next rest
termination_by bs.length
decreasing_by
  exact Nat.lt_of_lt_of_le (length_readFields_lt _hne) (List.dropWhile_suffix isBreak).length_le

/-- The mark of byte order before a text. -/
def byteOrderMark : Bytes := [0xef, 0xbb, 0xbf]

/-- The records of a text.  A mark of byte order before it is skipped, but its bytes count. -/
def records (bs : Bytes) : List Record :=
  if byteOrderMark.isPrefixOf bs then
    recordsFrom ⟨0, 1, byteOrderMark.length⟩ (bs.drop byteOrderMark.length)
  else recordsFrom ⟨0, 1, 0⟩ bs

end PlannerTrials.Csv
