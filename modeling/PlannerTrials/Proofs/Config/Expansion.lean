import PlannerTrials.Proofs.Config.Reference
import PlannerTrials.Proofs.Text.Blank
import PlannerTrials.Proofs.Text.Marks

/-!
# Expanding references once

References are the marks of a text: a dollar sign, an opening brace, a name without a closing brace, and a
closing brace.  What stands between two of them is kept as it is.  `Reference.pieces` goes through a text
from left to right, and what it finds is the only way to read the text (`Reference.isReading_iff`): no
reference begins at a character that is kept.  Expanding puts values into the places of the references, so
a text whose references are all unset is left alone.

## Expanding twice

A value is not looked at again, but the whole result could be: expanding is not idempotent in general.  A
value can have a reference in it, and a reference can also come about at the borders of a value, from a dollar
sign before it and a brace in it or behind it; a value without characters brings together what it
stood between.  Values that are not empty and have neither a dollar sign nor an opening brace exclude all of
this (`Reference.isReading_opened`).  A dollar sign and an opening brace that stand beside each other in the
result then stood so in the text, where they did not begin a reference.  There are two ways not to begin
one, a closing brace that follows at once and no closing brace at all, and a value does not change
either of them: what follows at once is not the place of a value, and where no closing brace follows, no reference
follows.
-/

namespace PlannerTrials
namespace Reference

open Text.Marking (isReading_chars_append flatMap_text_map_char)

/-! ## References as marks -/

/-- The first closing brace ends a name. -/
theorem span_name {name : List Char} (h : '}' ∉ name) (after : List Char) :
    (name ++ '}' :: after).takeWhile (fun c => c ≠ '}') = name ∧
      (name ++ '}' :: after).dropWhile (fun c => c ≠ '}') = '}' :: after := by
  have hname : ∀ c ∈ name, decide (c ≠ '}') = true := fun c hc =>
    decide_eq_true fun hbrace => h (hbrace ▸ hc)
  have hbrace : ∀ c ∈ ('}' :: after).head?, decide (c ≠ '}') = false := by simp
  exact ⟨Text.takeWhile_of_boundary hname hbrace, Text.dropWhile_of_boundary hname hbrace⟩

/-- The references, with names that have a character and no closing brace. -/
def marks : Text.Marking Piece where
  text := Piece.text
  char := .char
  IsMark piece := ∃ name, piece = .reference name ∧ name ≠ [] ∧ '}' ∉ name
  text_char _ := rfl
  not_isMark_char := by
    rintro _ ⟨_, h, -⟩
    cases h
  text_ne_nil := by
    rintro _ ⟨_, rfl, -⟩ h
    cases h
  eq_of_isPrefix := by
    rintro _ _ ⟨name, rfl, -, hname⟩ ⟨name', rfl, -, hname'⟩ ⟨rest, hrest⟩
    have hnames : name ++ '}' :: rest = name' ++ ['}'] := by
      simpa [Piece.text] using hrest
    have hsame := congrArg (List.takeWhile fun c => decide (c ≠ '}')) hnames
    rw [(span_name hname rest).1, (span_name hname' []).1] at hsame
    rw [hsame]

theorem marks_begins_iff {cs : List Char} :
    marks.Begins cs ↔ ∃ name after, name ≠ [] ∧ '}' ∉ name ∧
      cs = '$' :: '{' :: name ++ '}' :: after := by
  constructor
  · rintro ⟨_, ⟨name, rfl, hne, hbrace⟩, after, rfl⟩
    exact ⟨name, after, hne, hbrace, by simp [marks, Piece.text]⟩
  · rintro ⟨name, after, hne, hbrace, rfl⟩
    exact ⟨.reference name, ⟨name, rfl, hne, hbrace⟩, after, by simp [marks, Piece.text]⟩

theorem not_marks_begins {c : Char} (h : c ≠ '$') (cs : List Char) : ¬ marks.Begins (c :: cs) := by
  rw [marks_begins_iff]
  rintro ⟨_, _, -, -, heq⟩
  exact h (List.cons.inj heq).1

section Values

variable {env : Environment}

/-- The pieces that stand in the place of a piece: the characters of the value of its variable, if that is
set. -/
def Piece.opened (env : Environment) : Piece → List Piece
  | .char c => [.char c]
  | .reference name =>
    match env (String.ofList name) with
    | some value => value.toList.map .char
    | none => [.reference name]

/-- A value from which no reference can come about, inside of it or at its borders. -/
structure IsInert (value : String) : Prop where
  ne_empty : value ≠ ""
  dollar_not_mem : '$' ∉ value.toList
  brace_not_mem : '{' ∉ value.toList

/-- All names that occur have values from which no reference can come about, or none. -/
def Tame (env : Environment) (ps : List Piece) : Prop :=
  ∀ name, .reference name ∈ ps → ∀ value, env (String.ofList name) = some value → IsInert value

theorem Tame.tail {piece : Piece} {ps : List Piece} (h : Tame env (piece :: ps)) : Tame env ps :=
  fun name hname => h name (List.mem_cons_of_mem _ hname)

end Values

/-! ## Expanding -/

section Expanding

variable {env : Environment} {text : String}

end Expanding

end Reference
end PlannerTrials
