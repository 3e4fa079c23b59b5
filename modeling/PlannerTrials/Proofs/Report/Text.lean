import PlannerTrials.Report.Text
import PlannerTrials.Proofs.Number.Fixed
import PlannerTrials.Proofs.Text.Cells

/-!
# A report in columns loses nothing

The text of a report is a header and a row for each domain, and `text_keeps_columns` says how each row is read.  A
row begins with the whole name of the domain.  What follows the name is read as spaces and seven cells, in one
way only, and the cells are the texts of the seven numbers of the domain.  No width occurs in this: neither a
long name nor a large number is cut off, and no cell runs into the next one.

The widths of the columns are about the places of the cells.  Where neither the name nor any cell is too
wide, the row is as long as the header and each of its cells ends where the cell of the header does.

## Reading behind the name

A name may have anything in it, also spaces, line feeds and what looks like a number.  The reading starts behind
the name for this reason, and it is the length of the name, counted in characters, from which the places
of the cells are counted on.  A name that is too wide takes up the spaces up to the edge of its column and
then moves the cells, but a space stands before each cell whatever the widths are.
-/

namespace PlannerTrials

open Number

namespace Report

/-! ## Entries -/

/-- A number that a report shows. -/
inductive Entry where
  | count (n : Nat)
  /-- A double with a number of places behind the point. -/
  | decimal (places : Nat) (x : Double)

/-- The texts of an entry. -/
def Entry.IsText : Entry → List Char → Prop
  | .count n, cs => cs = digits n
  | .decimal places x, cs => x.IsFixed places cs

/-- A row that begins with a name and is read behind it as cells with the places behind them, up to the
line feed at its end. -/
def IsRow (name : List Char) (texts : List (List Char)) (ends : List Nat) (row : List Char) : Prop :=
  ∃ rest, row = name ++ rest ++ ['\n'] ∧ Text.Cells name.length texts ends rest

end Report

/-- The entries of a domain: the number of problems, and for each solver the mean time, the mean makespan
and the number of runs without a plan. -/
def DomainSummary.entries (summary : DomainSummary) : List Report.Entry :=
  [.count summary.problems, .decimal 3 summary.sat.meanTime, .decimal 3 summary.hsp.meanTime,
    .decimal 1 summary.sat.meanMakespan, .decimal 1 summary.hsp.meanMakespan,
    .count summary.sat.noPlan, .count summary.hsp.noPlan]

namespace Report

/-! ## Texts as cells -/

theorem isCell_digits (n : Nat) : Text.IsCell (digits n) :=
  ⟨digits_ne_nil n, fun _ hc => not_isBlank_of_isDigit (isDigit_of_mem_digits hc)⟩

theorem isCell_signed {cs : List Char} (h : Text.IsCell cs) (negative : Bool) :
    Text.IsCell (signed negative cs) := by
  refine ⟨?_, fun _ hc => not_isBlank_of_mem_signed h.not_blank hc⟩
  cases negative with
  | false => exact h.ne_nil
  | true => exact List.cons_ne_nil _ _

/-- A text with places has no blank. -/
theorem isCell_of_isFixed {places : Nat} {x : Double} {cs : List Char} (h : x.IsFixed places cs) :
    Text.IsCell cs := by
  cases x with
  | nan =>
    obtain rfl : cs = "NaN".toList := h
    decide
  | infinite negative =>
    obtain rfl : cs = signed negative "inf".toList := h
    exact isCell_signed ((by decide)) negative
  | finite negative q hq =>
    obtain ⟨whole, fraction, rfl, -, hfraction, -⟩ := h
    refine isCell_signed ⟨by simp, fun c hc => ?_⟩ negative
    rcases List.mem_append.mp hc with hc | hc
    · exact (isCell_digits whole).not_blank c hc
    · rcases List.mem_cons.mp hc with rfl | hc
      · decide
      · exact not_isBlank_of_isDigit (hfraction c hc)

theorem Entry.IsText.isCell {entry : Entry} {cs : List Char} (h : entry.IsText cs) :
    Text.IsCell cs := by
  cases entry with
  | count n =>
    obtain rfl : cs = digits n := h
    exact isCell_digits n
  | decimal places x => exact isCell_of_isFixed h

/-- An entry has one text. -/
theorem Entry.IsText.eq {entry : Entry} {cs cs' : List Char} (h : entry.IsText cs)
    (h' : entry.IsText cs') : cs = cs' := by
  cases entry with
  | count n => exact Eq.trans h (Eq.symm h')
  | decimal places x => exact Double.IsFixed.eq h h'

theorem forall₂_isText_cells (summary : DomainSummary) :
    List.Forall₂ Entry.IsText summary.entries (cells summary) := by
  have hfixed : ∀ {places : Nat} (x : Double), 0 < places →
      (Entry.decimal places x).IsText (x.fixed places) := fun x hplaces =>
    (Double.isFixed_iff hplaces).mpr rfl
  exact .cons rfl (.cons (hfixed _ (by decide)) (.cons (hfixed _ (by decide))
    (.cons (hfixed _ (by decide)) (.cons (hfixed _ (by decide)) (.cons rfl (.cons rfl .nil))))))

/-- **The cells of a domain are the texts of its entries**, and nothing else is. -/
theorem forall₂_isText_iff {summary : DomainSummary} {texts : List (List Char)} :
    List.Forall₂ Entry.IsText summary.entries texts ↔ texts = cells summary := by
  have hunique : Relator.RightUnique Entry.IsText := fun _ _ _ h h' => h.eq h'
  constructor
  · exact fun h => List.right_unique_forall₂' hunique h (forall₂_isText_cells summary)
  · rintro rfl
    exact forall₂_isText_cells summary

theorem isCell_of_mem_cells {summary : DomainSummary} {cs : List Char} (h : cs ∈ cells summary) :
    Text.IsCell cs := by
  obtain ⟨j, hj, rfl⟩ := List.getElem_of_mem h
  have hentries := forall₂_isText_cells summary
  exact ((List.forall₂_iff_get.mp hentries).2 j (hentries.length_eq ▸ hj) hj).isCell

/-! ## Rows -/

section Rows

variable {name row : List Char} {texts texts' : List (List Char)} {ends ends' : List Nat}

/-- There is one way to read a row behind a name. -/
theorem IsRow.unique (h : IsRow name texts ends row) (h' : IsRow name texts' ends' row) :
    texts = texts' ∧ ends = ends' := by
  obtain ⟨rest, hrow, hcells⟩ := h
  obtain ⟨rest', hrow', hcells'⟩ := h'
  have hrest : rest = rest' := by
    rw [hrow, List.append_assoc, List.append_assoc] at hrow'
    exact List.append_cancel_right (List.append_cancel_left hrow')
  subst hrest
  exact hcells.unique hcells'

/-- Rows whose cells end at the same places are equally long. -/
theorem IsRow.length_eq {name' row' : List Char} (h : IsRow name texts ends row)
    (h' : IsRow name' texts' ends row') (hne : ends ≠ []) : row.length = row'.length := by
  have hlength : ∀ {name row : List Char} {texts : List (List Char)}, IsRow name texts ends row →
      row.length = ends.getLastD name.length + 1 := by
    rintro name row texts ⟨rest, rfl, hcells⟩
    rw [hcells.getLastD_ends, List.length_append, List.length_append, List.length_singleton]
  obtain ⟨stop, stops, rfl⟩ := List.exists_cons_of_ne_nil hne
  rw [hlength h, hlength h', List.getLastD_cons, List.getLastD_cons]

/-- **A line is read as its name and its cells.** -/
theorem isRow_line (name : List Char) (hcells : ∀ cs ∈ texts, Text.IsCell cs)
    (hlength : texts.length = widths.length) :
    IsRow name texts (Text.cellEnds (max nameWidth name.length) widths texts) (line name texts) := by
  have hne : texts ≠ [] := by
    rintro rfl
    cases hlength
  have hstart : max nameWidth name.length = name.length + (nameWidth - name.length) := by omega
  have hread := Text.cells_flatten hcells hlength (max nameWidth name.length)
  rw [hstart] at hread ⊢
  refine ⟨_, ?_, hread.indent hne⟩
  rw [line, Text.padRight, List.append_assoc name]

/-- Where nothing is too wide, the places are those of the columns. -/
theorem isRow_line_of_fits (hname : name.length ≤ nameWidth) (hcells : ∀ cs ∈ texts, Text.IsCell cs)
    (hfits : List.Forall₂ (fun text width => text.length ≤ width) texts widths) :
    IsRow name texts (Text.columnEnds nameWidth widths) (line name texts) := by
  have hrow := isRow_line name hcells hfits.length_eq
  rwa [Nat.max_eq_left hname, Text.cellEnds_of_fits hfits] at hrow

end Rows

/-- The header is a row itself. -/
theorem isRow_headerLine :
    IsRow "domain".toList (columnNames.map String.toList) (Text.columnEnds nameWidth widths)
      headerLine := by
  have hcells : ∀ cs ∈ columnNames.map String.toList, Text.IsCell cs := by decide
  have hfits : List.Forall₂ (fun text width => text.length ≤ width)
      (columnNames.map String.toList) widths := by decide
  exact isRow_line_of_fits (by decide) hcells hfits

end Report

/-! ## The text of a report -/

/-- A row that shows a domain. -/
structure DomainSummary.IsShownBy (summary : DomainSummary) (row : List Char) : Prop where
  /-- Behind the whole name of the domain the row can be read as cells. -/
  readable : ∃ texts ends, Report.IsRow summary.domain.toList texts ends row
  /-- What is read are the texts of the entries, all of them and in their order. -/
  reads_iff : ∀ texts, (∃ ends, Report.IsRow summary.domain.toList texts ends row) ↔
    List.Forall₂ Report.Entry.IsText summary.entries texts
  /-- If nothing is too wide, then the row is as long as the header, and its cells end at the places of
  the columns. -/
  aligned : ∀ texts ends, Report.IsRow summary.domain.toList texts ends row →
    summary.domain.length ≤ Report.nameWidth →
    List.Forall₂ (fun text width => text.length ≤ width) texts Report.widths →
    ends = Text.columnEnds Report.nameWidth Report.widths ∧
      row.length = Report.headerLine.length

namespace Report

/-- **The line of a domain shows it.** -/
theorem isShownBy_domainLine (summary : DomainSummary) : summary.IsShownBy (domainLine summary) := by
  have hcells : ∀ cs ∈ cells summary, Text.IsCell cs := fun _ hcs => isCell_of_mem_cells hcs
  have hrow := isRow_line summary.domain.toList hcells rfl
  refine ⟨⟨_, _, hrow⟩, fun texts => ?_, fun texts ends h hname hfits => ?_⟩
  · rw [forall₂_isText_iff]
    constructor
    · rintro ⟨ends, h⟩
      exact (h.unique hrow).1
    · rintro rfl
      exact ⟨_, hrow⟩
  · obtain rfl := (h.unique hrow).1
    have hfitting := isRow_line_of_fits (by rwa [String.length_toList]) hcells hfits
    obtain rfl := (h.unique hfitting).2
    exact ⟨rfl, h.length_eq isRow_headerLine (List.cons_ne_nil _ _)⟩

/-- **A report in columns loses nothing.**  Its text is the header and then a row for each domain in the order of
the report; the header is a row with the names of the columns, and each row shows its domain whatever
the name and the numbers are. -/
theorem text_keeps_columns (report : Report) :
    ∃ rows, report.text.toList = headerLine ++ rows.flatten ∧
      IsRow "domain".toList (columnNames.map String.toList) (Text.columnEnds nameWidth widths)
        headerLine ∧
      List.Forall₂ DomainSummary.IsShownBy report.domains rows := by
  refine ⟨report.domains.map domainLine, ?_, isRow_headerLine, ?_⟩
  · rw [text, String.toList_ofList, List.flatMap_def]
  · rw [List.forall₂_map_right_iff, List.forall₂_same]
    exact fun summary _ => isShownBy_domainLine summary

/-- The name is two characters too long and a mean one character, so that what follows is moved by three. -/
example :
    domainLine ⟨"elevators 2011\t1", 40, ⟨.zero, .infinite true, 0, .ofNat 12, 40⟩,
        ⟨.zero, .ofNat 1234567, 80, .nan, 0⟩, []⟩ =
      "elevators 2011\t1       40       -inf 1234567.000      12.0       NaN      40       0\n".toList := by
  decide +kernel

end Report

end PlannerTrials
