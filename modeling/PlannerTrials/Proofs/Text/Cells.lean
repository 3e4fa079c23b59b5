import PlannerTrials.Text.Pad
import PlannerTrials.Proofs.Text.Blank
import Mathlib.Data.List.Forall2

/-!
# Cells and where they end

A line in columns is read from left to right: spaces, a cell, spaces, a cell, and so on.  `Cells` is this reading,
without any columns.  It has the cells and the places where they end, and since no cell has a blank in it,
there is only one way to read a line (`Cells.unique`).

How wide the columns are only matters for the places.  `cellEnds` gives them: each column takes a space and then its
width or its cell, whichever is longer, so that a cell that is too wide moves what follows it and nothing
else (`cells_flatten`).  If no cell is too wide, then the places depend on the widths alone
(`cellEnds_of_fits`).
-/

namespace PlannerTrials
namespace Text

/-! ## Reading cells -/

/-- A text that can stand in a cell: it has a character, and no blank. -/
structure IsCell (cs : List Char) : Prop where
  ne_nil : cs ≠ []
  not_blank : ∀ c ∈ cs, isBlank c = false

instance (cs : List Char) : Decidable (IsCell cs) :=
  decidable_of_iff (cs ≠ [] ∧ cs.all (fun c => !isBlank c) = true)
    ⟨fun h => ⟨h.1, by simpa using h.2⟩, fun h => ⟨h.ne_nil, by simpa using h.not_blank⟩⟩

/-- A text that stands behind `start` characters consists of cells, each of them after at least one space,
and these are the places behind them. -/
inductive Cells : Nat → List (List Char) → List Nat → List Char → Prop where
  | nil (start : Nat) : Cells start [] [] []
  | cons {start gap : Nat} {cell rest : List Char} {cells : List (List Char)} {ends : List Nat} :
    0 < gap → IsCell cell → Cells (start + gap + cell.length) cells ends rest →
      Cells start (cell :: cells) ((start + gap + cell.length) :: ends)
        (List.replicate gap ' ' ++ (cell ++ rest))

theorem isBlank_of_mem_spaces {n : Nat} {c : Char} (h : c ∈ List.replicate n ' ') :
    isBlank c = true := by
  rw [(List.mem_replicate.mp h).2]
  decide

theorem IsCell.head?_append {cell : List Char} (h : IsCell cell) (rest : List Char) :
    ∀ c ∈ (cell ++ rest).head?, isBlank c = false := by
  intro c hc
  rw [List.head?_append_of_ne_nil _ h.ne_nil] at hc
  exact h.not_blank c (List.mem_of_mem_head? hc)

/-- **The first cell is found**: the spaces end where it begins, and it ends where the next spaces begin. -/
theorem eq_of_first_cell {gap gap' : Nat} {cell cell' rest rest' : List Char}
    (hcell : IsCell cell) (hcell' : IsCell cell') (hrest : ∀ c ∈ rest.head?, isBlank c = true)
    (hrest' : ∀ c ∈ rest'.head?, isBlank c = true)
    (h : List.replicate gap ' ' ++ (cell ++ rest) = List.replicate gap' ' ' ++ (cell' ++ rest')) :
    gap = gap' ∧ cell = cell' ∧ rest = rest' := by
  have hinside : ∀ {cell : List Char}, IsCell cell → ∀ c ∈ cell, (!isBlank c) = true :=
    fun hcell c hc => by rw [hcell.not_blank c hc]; rfl
  have hbehind : ∀ {rest : List Char}, (∀ c ∈ rest.head?, isBlank c = true) →
      ∀ c ∈ rest.head?, (!isBlank c) = false :=
    fun hrest c hc => by rw [hrest c hc]; rfl
  obtain ⟨hgaps, hcells⟩ := eq_of_boundary (fun _ hc => isBlank_of_mem_spaces hc)
    (hcell.head?_append rest) (fun _ hc => isBlank_of_mem_spaces hc) (hcell'.head?_append rest') h
  have hgap : gap = gap' := by simpa using congrArg List.length hgaps
  exact ⟨hgap, eq_of_boundary (hinside hcell) (hbehind hrest) (hinside hcell') (hbehind hrest') hcells⟩

namespace Cells

variable {start : Nat} {cells cells' : List (List Char)} {ends ends' : List Nat} {text : List Char}

/-- Behind a cell there is a space or the end. -/
theorem isBlank_of_head? (h : Cells start cells ends text) : ∀ c ∈ text.head?, isBlank c = true := by
  intro c hc
  cases h with
  | nil => cases hc
  | @cons _ gap cell rest _ _ hgap _ _ =>
    obtain ⟨n, rfl⟩ : ∃ n, gap = n + 1 := ⟨gap - 1, by omega⟩
    rw [List.replicate_succ, List.cons_append, List.head?_cons] at hc
    cases hc
    decide

/-- **There is one way to read cells.** -/
theorem unique (h : Cells start cells ends text) (h' : Cells start cells' ends' text) :
    cells = cells' ∧ ends = ends' := by
  have hspaces : ∀ {gap : Nat} {rest : List Char}, 0 < gap → List.replicate gap ' ' ++ rest ≠ [] := by
    intro gap rest hgap hnil
    have hlength := congrArg List.length hnil
    rw [List.length_append, List.length_replicate, List.length_nil] at hlength
    omega
  generalize htext : text = text' at h'
  induction h generalizing cells' ends' text' with
  | nil =>
    cases h' with
    | nil => exact ⟨rfl, rfl⟩
    | cons hgap => exact absurd htext.symm (hspaces hgap)
  | cons hgap hcell hrest ih =>
    cases h' with
    | nil => exact absurd htext (hspaces hgap)
    | cons hgap' hcell' hrest' =>
      obtain ⟨rfl, rfl, rfl⟩ := eq_of_first_cell hcell hcell' hrest.isBlank_of_head?
        hrest'.isBlank_of_head? htext
      obtain ⟨rfl, rfl⟩ := ih _ rfl hrest'
      exact ⟨rfl, rfl⟩

/-- Spaces before the cells belong to the first of them. -/
theorem indent {k : Nat} (hne : cells ≠ []) (h : Cells (start + k) cells ends text) :
    Cells start cells ends (List.replicate k ' ' ++ text) := by
  cases h with
  | nil => exact absurd rfl hne
  | @cons _ gap cell rest cells ends hgap hcell hrest =>
    have hplace : start + k + gap + cell.length = start + (k + gap) + cell.length := by omega
    rw [hplace] at hrest ⊢
    rw [← List.append_assoc, List.replicate_append_replicate]
    exact .cons (by omega) hcell hrest

/-- The last cell ends where the text does. -/
theorem getLastD_ends (h : Cells start cells ends text) :
    ends.getLastD start = start + text.length := by
  induction h with
  | nil => rfl
  | @cons start gap cell rest cells ends hgap hcell hrest ih =>
    rw [List.getLastD_cons, ih, List.length_append, List.length_replicate, List.length_append]
    omega

end Cells

/-! ## Columns -/

/-- Where cells end in columns of given widths that have a space before each. -/
def cellEnds : Nat → List Nat → List (List Char) → List Nat
  | start, width :: widths, cell :: cells =>
    (start + 1 + max width cell.length) :: cellEnds (start + 1 + max width cell.length) widths cells
  | _, _, _ => []

/-- Where columns of given widths end. -/
def columnEnds : Nat → List Nat → List Nat
  | _, [] => []
  | start, width :: widths => (start + 1 + width) :: columnEnds (start + 1 + width) widths

/-- **Cells in columns are read as they are**, also those that are too wide. -/
theorem cells_flatten {cells : List (List Char)} {widths : List Nat}
    (hcells : ∀ cell ∈ cells, IsCell cell) (hlength : cells.length = widths.length) (start : Nat) :
    Cells start cells (cellEnds start widths cells)
      (List.zipWith (fun width cell => ' ' :: padLeft width cell) widths cells).flatten := by
  induction cells generalizing start widths with
  | nil =>
    rw [List.zipWith_nil_right, List.flatten_nil]
    cases widths <;> exact .nil start
  | cons cell cells ih =>
    obtain _ | ⟨width, widths⟩ := widths
    · simp at hlength
    have hcell := hcells cell List.mem_cons_self
    have hrest := ih (fun cell hcell => hcells cell (List.mem_cons_of_mem _ hcell))
      (Nat.succ.inj hlength) (start + 1 + max width cell.length)
    have hplace : start + 1 + max width cell.length =
        start + (width - cell.length + 1) + cell.length := by omega
    rw [cellEnds, List.zipWith_cons_cons, List.flatten_cons, padLeft, ← List.cons_append,
      ← List.replicate_succ, List.append_assoc]
    rw [hplace] at hrest ⊢
    exact .cons (Nat.succ_pos _) hcell hrest

/-- **Cells that are not too wide end where their columns end.** -/
theorem cellEnds_of_fits {cells : List (List Char)} {widths : List Nat}
    (h : List.Forall₂ (fun cell width => cell.length ≤ width) cells widths) (start : Nat) :
    cellEnds start widths cells = columnEnds start widths := by
  induction h generalizing start with
  | nil => rfl
  | @cons cell width cells widths hfits _ ih =>
    rw [cellEnds, columnEnds, Nat.max_eq_left hfits, ih]

end Text
end PlannerTrials
