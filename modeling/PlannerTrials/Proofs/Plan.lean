import PlannerTrials.Plan
import PlannerTrials.Proofs.Text.Blank
import PlannerTrials.Proofs.Text.Segments
import Mathlib.Data.List.Sort

/-!
# The steps of a plan, position by position

`Plan.steps` cuts an output into lines, removes the blanks around each line and keeps the lines that start
like a step.  This module says what the result is without any lines.  A step starts at a position of
the text (`StartsAt`) if the marker stands there and nothing but blanks stands before it, back to the last
boundary.  The steps are what stands at these positions, each up to the next boundary and without the
blanks at its end, and the makespan is their number (`steps_are_positional`).

## One line and many

Some boundaries are blank and others are not, a marker can stand anywhere in a line, and two boundaries in a row
have an empty line between them.  None of this matters at a boundary: a position before it does not
see what is behind it, one behind it does not see what is before it, and on the boundary itself no step
starts.  So the starts of a text with a boundary in it are those of its two sides (`starts_append`), as
its steps are, and what is left is a text without a boundary.  There the marker can only stand
behind all blanks at the start (`startsAt_indented_iff`).
-/

namespace PlannerTrials
namespace Plan

open Text (isBlank trim trimStart trimEnd)

/-! ## Positions -/

/-- The characters that end a line: line feed, carriage return, vertical tab, form feed, the three
separators of the ASCII controls, next line, and the separators of lines and of paragraphs. -/
def boundaries : List Char :=
  ['\n', '\r', '\x0b', '\x0c', '\x1c', '\x1d', '\x1e', '\u0085', '\u2028', '\u2029']

/-- What stands between the last boundary before a position, or the start of the text, and the
position. -/
def sinceBoundary (text : List Char) (i : Nat) : List Char :=
  (text.take i).rtakeWhile fun c => c ∉ boundaries

/-- What stands between a position and the next boundary, or the end of the text. -/
def untilBoundary (text : List Char) (i : Nat) : List Char :=
  (text.drop i).takeWhile fun c => c ∉ boundaries

/-- The marker of a step. -/
def marker : List Char := ['0', ':']

/-- A step starts at a position of a text. -/
structure StartsAt (text : List Char) (i : Nat) : Prop where
  /-- The marker stands at the position. -/
  marked : marker <+: text.drop i
  /-- Only blanks stand before it, back to the last boundary. -/
  indented : ∀ c ∈ sinceBoundary text i, isBlank c = true

instance (text : List Char) (i : Nat) : Decidable (StartsAt text i) :=
  decidable_of_iff (marker <+: text.drop i ∧ (sinceBoundary text i).all isBlank = true)
    ⟨fun h => ⟨h.1, List.all_eq_true.mp h.2⟩, fun h => ⟨h.1, List.all_eq_true.mpr h.2⟩⟩

/-- The positions at which steps start, in their order. -/
def starts (text : List Char) : List Nat := (List.range text.length).filter fun i => StartsAt text i

/-- The step at a position, without the blanks at its end. -/
def stepAt (text : List Char) (i : Nat) : List Char := trimEnd (untilBoundary text i)

theorem isBoundary_iff {c : Char} : isBoundary c = true ↔ c ∈ boundaries := by
  have hinjective : Function.Injective Char.toNat := fun _ _ => Char.toNat_inj.mp
  rw [← List.mem_map_of_injective hinjective]
  simp [isBoundary, boundaries]
  omega

theorem not_mem_boundaries {text : List Char} (h : ∀ c ∈ text, isBoundary c = false) :
    ∀ c ∈ text, c ∉ boundaries :=
  fun c hc hmem => absurd (isBoundary_iff.mpr hmem) (by rw [h c hc]; exact Bool.false_ne_true)

/-! ## Starts -/

section Starts

variable {text : List Char} {i : Nat}

theorem StartsAt.lt_length (h : StartsAt text i) : i + 1 < text.length := by
  have hlength := h.marked.length_le
  rw [List.length_drop, marker] at hlength
  simp only [List.length_cons, List.length_nil] at hlength
  omega

theorem mem_starts : i ∈ starts text ↔ StartsAt text i := by
  rw [starts, List.mem_filter, List.mem_range, decide_eq_true_iff]
  exact and_iff_right_of_imp fun h => Nat.lt_of_succ_lt h.lt_length

theorem pairwise_starts (text : List Char) : (starts text).Pairwise (· < ·) :=
  (List.pairwise_lt_range).filter _

/-- Positions in order at which steps start, and all of them, are the starts. -/
theorem starts_eq {positions : List Nat} (hsorted : positions.Pairwise (· < ·))
    (hmem : ∀ i, i ∈ positions ↔ StartsAt text i) : starts text = positions :=
  (pairwise_starts text).eq_of_mem_iff hsorted fun i => mem_starts.trans (hmem i).symm

end Starts

/-! ## Both sides of a boundary -/

section Boundary

variable {b : Char} (hb : b ∈ boundaries) (before after : List Char)

include hb

theorem takeWhile_boundary (left right : List Char) :
    (left ++ b :: right).takeWhile (fun c => c ∉ boundaries) =
      left.takeWhile fun c => c ∉ boundaries := by
  induction left with
  | nil => exact List.takeWhile_cons_of_neg (by simpa using hb)
  | cons c left ih => rw [List.cons_append, List.takeWhile_cons, List.takeWhile_cons, ih]

/-- A boundary is no part of the marker. -/
theorem marker_isPrefix_boundary (left right : List Char) :
    marker <+: left ++ b :: right ↔ marker <+: left := by
  have hzero : '0' ≠ b := fun h => absurd (h ▸ hb) (by decide)
  have hcolon : ':' ≠ b := fun h => absurd (h ▸ hb) (by decide)
  constructor
  · intro h
    match left with
    | [] => exact absurd (List.cons_prefix_cons.mp h).1 hzero
    | [c] => exact absurd (List.cons_prefix_cons.mp (List.cons_prefix_cons.mp h).2).1 hcolon
    | c :: d :: left =>
      obtain ⟨rfl, htail⟩ := List.cons_prefix_cons.mp h
      obtain ⟨rfl, -⟩ := List.cons_prefix_cons.mp htail
      exact ⟨left, rfl⟩
  · exact fun h => h.trans (List.prefix_append left _)

theorem startsAt_append_left {i : Nat} (hi : i ≤ before.length) :
    StartsAt (before ++ b :: after) i ↔ StartsAt before i := by
  have hsince : sinceBoundary (before ++ b :: after) i = sinceBoundary before i := by
    rw [sinceBoundary, List.take_append_of_le_length hi, sinceBoundary]
  have hmarked : marker <+: (before ++ b :: after).drop i ↔ marker <+: before.drop i := by
    rw [List.drop_append_of_le_length hi]
    exact marker_isPrefix_boundary hb _ _
  constructor
  · exact fun h => ⟨hmarked.mp h.marked, hsince ▸ h.indented⟩
  · exact fun h => ⟨hmarked.mpr h.marked, hsince ▸ h.indented⟩

theorem startsAt_append_right (j : Nat) :
    StartsAt (before ++ b :: after) (before.length + (j + 1)) ↔ StartsAt after j := by
  have hsince : sinceBoundary (before ++ b :: after) (before.length + (j + 1)) =
      sinceBoundary after j := by
    rw [sinceBoundary, List.take_length_add_append, List.take_succ_cons, List.rtakeWhile,
      List.reverse_append, List.reverse_cons, List.append_assoc, List.singleton_append,
      takeWhile_boundary hb]
    rfl
  have hdrop : (before ++ b :: after).drop (before.length + (j + 1)) = after.drop j := by
    rw [List.drop_length_add_append, List.drop_succ_cons]
  constructor
  · exact fun h => ⟨hdrop ▸ h.marked, hsince ▸ h.indented⟩
  · exact fun h => ⟨hdrop ▸ h.marked, hsince ▸ h.indented⟩

/-- **The starts of a text with a boundary are those of its two sides.** -/
theorem starts_append :
    starts (before ++ b :: after) =
      starts before ++ (starts after).map fun j => before.length + (j + 1) := by
  refine starts_eq ?_ fun i => ?_
  · refine List.pairwise_append.mpr ⟨pairwise_starts before, ?_, fun i hi k hk => ?_⟩
    · exact (pairwise_starts after).map _ fun j k hjk => by omega
    · obtain ⟨j, -, rfl⟩ := List.mem_map.mp hk
      have hlength := (mem_starts.mp hi).lt_length
      omega
  · rw [List.mem_append, List.mem_map, mem_starts]
    rcases Nat.lt_or_ge before.length i with hi | hi
    · -- behind the boundary
      obtain ⟨j, rfl⟩ : ∃ j, i = before.length + (j + 1) := ⟨i - before.length - 1, by omega⟩
      rw [startsAt_append_right hb]
      constructor
      · rintro (h | ⟨k, hk, hkj⟩)
        · have hlength := h.lt_length
          omega
        · obtain rfl : k = j := by omega
          exact mem_starts.mp hk
      · exact fun h => .inr ⟨j, mem_starts.mpr h, rfl⟩
    · -- before the boundary, or on it
      rw [startsAt_append_left hb before after hi]
      constructor
      · rintro (h | ⟨k, -, hki⟩)
        · exact h
        · omega
      · exact .inl

theorem stepAt_append_left {i : Nat} (hi : i ≤ before.length) :
    stepAt (before ++ b :: after) i = stepAt before i := by
  rw [stepAt, untilBoundary, List.drop_append_of_le_length hi, takeWhile_boundary hb]
  rfl

omit hb in
theorem stepAt_append_right (j : Nat) :
    stepAt (before ++ b :: after) (before.length + (j + 1)) = stepAt after j := by
  rw [stepAt, untilBoundary, List.drop_length_add_append, List.drop_succ_cons]
  rfl

/-- The steps that stand at the starts are those of the two sides. -/
theorem map_stepAt_append :
    (starts (before ++ b :: after)).map (stepAt (before ++ b :: after)) =
      (starts before).map (stepAt before) ++ (starts after).map (stepAt after) := by
  rw [starts_append hb, List.map_append, List.map_map]
  congr 1
  · refine List.map_congr_left fun i hi => stepAt_append_left hb before after ?_
    have hlength := (mem_starts.mp hi).lt_length
    omega
  · exact List.map_congr_left fun j _ => stepAt_append_right before after j

/-- The lines of a text with a boundary are those of its two sides, and so are the steps. -/
theorem steps_append : steps (before ++ b :: after) = steps before ++ steps after := by
  rw [steps, lines, Text.segments_append (isBoundary_iff.mpr hb), List.map_append,
    List.filter_append]
  rfl

end Boundary

/-! ## A text without a boundary -/

section Line

theorem startsStep_iff {line : List Char} : startsStep line = true ↔ marker <+: line := by
  constructor
  · intro h
    unfold startsStep at h
    split at h
    · exact ⟨_, rfl⟩
    · exact absurd h Bool.false_ne_true
  · rintro ⟨rest, rfl⟩
    rfl

/-- The marker has no blanks, so removing blanks from the end leaves it alone. -/
theorem marker_isPrefix_trimEnd {line : List Char} : marker <+: trimEnd line ↔ marker <+: line := by
  obtain ⟨right, hright, hblank⟩ := Text.exists_trimEnd line
  constructor
  · intro h
    rw [hright]
    exact h.trans (List.prefix_append _ _)
  · rintro ⟨rest, rfl⟩
    have hzero : isBlank '0' = false := by decide
    have hcolon : isBlank ':' = false := by decide
    exact ⟨trimEnd rest, by
      rw [marker, List.cons_append, List.singleton_append, List.cons_append, List.singleton_append,
        Text.trimEnd_cons hzero, Text.trimEnd_cons hcolon]⟩

variable {left core : List Char}

/-- In a line with blanks at its start a step can only start behind them. -/
theorem startsAt_indented_iff (hleft : ∀ c ∈ left, isBlank c = true)
    (hcore : ∀ c ∈ core.head?, isBlank c = false) (hline : ∀ c ∈ left ++ core, c ∉ boundaries)
    {i : Nat} : StartsAt (left ++ core) i ↔ i = left.length ∧ marker <+: core := by
  have hsince : sinceBoundary (left ++ core) i = (left ++ core).take i := by
    rw [sinceBoundary, List.rtakeWhile_eq_self_iff]
    exact fun c hc => decide_eq_true (hline c (List.mem_of_mem_take hc))
  constructor
  · intro h
    have hindented := h.indented
    have hmarked := h.marked
    rw [hsince] at hindented
    rcases Nat.lt_trichotomy i left.length with hi | rfl | hi
    · -- the marker would be a blank
      rw [List.drop_append_of_le_length (Nat.le_of_lt hi), List.drop_eq_getElem_cons hi] at hmarked
      have hzero := hleft _ (List.getElem_mem hi)
      rw [← (List.cons_prefix_cons.mp hmarked).1] at hzero
      exact absurd hzero (by decide)
    · exact ⟨rfl, by rwa [List.drop_left] at hmarked⟩
    · -- the first character behind the blanks would be a blank
      have hlength := h.lt_length
      cases core with
      | nil =>
        rw [List.append_nil] at hlength
        omega
      | cons c core =>
        have hmem : c ∈ (left ++ c :: core).take i := by
          obtain ⟨j, rfl⟩ : ∃ j, i = left.length + (j + 1) := ⟨i - left.length - 1, by omega⟩
          rw [List.take_length_add_append, List.take_succ_cons]
          exact List.mem_append_right _ List.mem_cons_self
        exact absurd (hindented c hmem) (by rw [hcore c rfl]; exact Bool.false_ne_true)
  · rintro ⟨rfl, hmarker⟩
    refine ⟨?_, ?_⟩
    · rwa [List.drop_left]
    · rwa [hsince, List.take_left]

theorem starts_indented (hleft : ∀ c ∈ left, isBlank c = true)
    (hcore : ∀ c ∈ core.head?, isBlank c = false) (hline : ∀ c ∈ left ++ core, c ∉ boundaries) :
    starts (left ++ core) = if marker <+: core then [left.length] else [] := by
  split
  · next hmarker =>
    refine starts_eq (List.pairwise_singleton _ _) fun i => ?_
    rw [startsAt_indented_iff hleft hcore hline, List.mem_singleton, and_iff_left hmarker]
  · next hmarker =>
    refine starts_eq List.Pairwise.nil fun i => ?_
    rw [startsAt_indented_iff hleft hcore hline]
    exact ⟨fun h => absurd h List.not_mem_nil, fun h => absurd h.2 hmarker⟩

theorem steps_of_forall {line : List Char} (hline : ∀ c ∈ line, isBoundary c = false) :
    steps line = if marker <+: trimStart line then [trim line] else [] := by
  have hone : steps line = [trim line].filter startsStep := by
    rw [steps, lines, Text.segments_of_forall hline]
    rfl
  have hstarts : startsStep (trim line) = true ↔ marker <+: trimStart line :=
    startsStep_iff.trans marker_isPrefix_trimEnd
  rw [hone]
  split
  · next hmarker => exact List.filter_cons_of_pos (hstarts.mpr hmarker)
  · next hmarker => exact List.filter_cons_of_neg fun h => hmarker (hstarts.mp h)

/-- **A text without a boundary** has a step only behind the blanks at its start. -/
theorem map_stepAt_of_forall {line : List Char} (hline : ∀ c ∈ line, isBoundary c = false) :
    (starts line).map (stepAt line) = steps line := by
  rw [steps_of_forall hline, trim]
  obtain ⟨left, hsplit, hleft⟩ := Text.exists_trimStart line
  have hcore := Text.head_trimStart line
  generalize trimStart line = core at hsplit hcore
  subst hsplit
  have hfree := not_mem_boundaries hline
  have huntil : untilBoundary (left ++ core) left.length = core := by
    rw [untilBoundary, List.drop_left, List.takeWhile_eq_self_iff]
    exact fun c hc => decide_eq_true (hfree c (List.mem_append_right _ hc))
  rw [starts_indented hleft hcore hfree]
  split
  · rw [List.map_singleton, stepAt, huntil]
  · exact List.map_nil

end Line

/-! ## All steps -/

/-- The steps of an output are what stands at the starts. -/
theorem map_stepAt_starts (output : List Char) :
    (starts output).map (stepAt output) = steps output := by
  induction output using Text.segments_induction isBoundary with
  | part line hline => exact map_stepAt_of_forall hline
  | append before b after hb ihbefore ihafter =>
    have hmem := isBoundary_iff.mp hb
    rw [map_stepAt_append hmem, steps_append hmem, ihbefore, ihafter]

/-- **The steps of a plan are positional.**  The steps of an output are what stands at the positions at which
a step starts, taken in increasing order: each goes up to the next boundary and loses the blanks at
its end.  The makespan is the number of these positions, as far as it fits into 32 bits, and that is the
number of the steps. -/
theorem steps_are_positional (output : List Char) :
    (starts output).Pairwise (· < ·) ∧ (∀ i, i ∈ starts output ↔ StartsAt output i) ∧
      steps output = (starts output).map (fun i => trimEnd (untilBoundary output i)) ∧
      makespan output = min (starts output).length 0xffffffff ∧
      makespan output = min (steps output).length 0xffffffff := by
  have hsteps := map_stepAt_starts output
  have hmakespan : makespan output = min (steps output).length 0xffffffff :=
    makespan_eq_length_steps output
  refine ⟨pairwise_starts output, fun i => mem_starts, hsteps.symm, ?_, hmakespan⟩
  rw [hmakespan, ← hsteps, List.length_map]

/-- A separator ends a line without being blank, and a marker inside a line starts no step. -/
example : starts "x\r\n  0: a 0: b\x1c0: c \n 10: d".toList = [5, 15] := by decide

end Plan
end PlannerTrials
