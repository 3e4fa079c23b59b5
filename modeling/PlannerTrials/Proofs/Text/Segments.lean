import PlannerTrials.Text.Segments
import Mathlib.Data.List.Basic

/-!
# Cutting and putting together

A separator ends one part and begins another one (`segments_append`), and without a separator there is
one part (`segments_of_forall`).  Everything else about the parts of a list follows from these two
equations, by `segments_induction`: a statement that holds without separators, and goes over from two
lists to the list with a separator between them, holds for all lists.

No part has a separator in it, and parts that are put together again are found again
(`segments_intercalate`).
-/

namespace PlannerTrials
namespace Text

variable {α : Type} {isSeparator : α → Bool}

theorem segments_ne_nil (as : List α) : segments isSeparator as ≠ [] := by
  intro hnil
  have hlength := length_segments isSeparator as
  rw [hnil] at hlength
  exact absurd hlength (by simp)

theorem segments_cons_of_pos {a : α} (h : isSeparator a = true) (as : List α) :
    segments isSeparator (a :: as) = [] :: segments isSeparator as := by
  rw [segments, if_pos h]

/-- A separator ends one part and begins another one. -/
theorem segments_append {sep : α} (hsep : isSeparator sep = true) (as bs : List α) :
    segments isSeparator (as ++ sep :: bs) = segments isSeparator as ++ segments isSeparator bs := by
  induction as with
  | nil => exact segments_cons_of_pos hsep bs
  | cons a as ih =>
    rw [List.cons_append, segments, segments, ih]
    split
    · rfl
    · cases hparts : segments isSeparator as with
      | nil => exact absurd hparts (segments_ne_nil as)
      | cons part parts => rfl

/-- What stands before the first separator belongs to the first part. -/
theorem segments_append_of_forall {as bs : List α} (h : ∀ a ∈ as, isSeparator a = false)
    {part : List α} {parts : List (List α)} (hparts : segments isSeparator bs = part :: parts) :
    segments isSeparator (as ++ bs) = (as ++ part) :: parts := by
  induction as with
  | nil => exact hparts
  | cons a as ih =>
    rw [List.cons_append, segments, if_neg (by rw [h a List.mem_cons_self]; exact Bool.false_ne_true),
      ih fun a ha => h a (List.mem_cons_of_mem _ ha)]
    rfl

/-- Without a separator there is one part. -/
theorem segments_of_forall {as : List α} (h : ∀ a ∈ as, isSeparator a = false) :
    segments isSeparator as = [as] := by
  have hparts : segments isSeparator (as ++ []) = [as ++ []] := segments_append_of_forall h rfl
  rwa [List.append_nil] at hparts

/-- A statement about lists holds if it holds for the lists without separators and goes over to two
lists with a separator between them. -/
@[elab_as_elim]
theorem segments_induction (isSeparator : α → Bool) {motive : List α → Prop}
    (part : ∀ as, (∀ a ∈ as, isSeparator a = false) → motive as)
    (append : ∀ as sep bs, isSeparator sep = true → motive as → motive bs →
      motive (as ++ sep :: bs)) (as : List α) : motive as := by
  -- What has been passed without a separator stands before the list.
  have hpassed : ∀ passed, (∀ a ∈ passed, isSeparator a = false) → motive (passed ++ as) := by
    induction as with
    | nil =>
      intro passed hpassed
      rw [List.append_nil]
      exact part passed hpassed
    | cons a as ih =>
      intro passed hpassed
      by_cases hsep : isSeparator a = true
      · exact append passed a as hsep (part passed hpassed) (ih [] (List.forall_mem_nil _))
      · rw [List.append_cons]
        refine ih (passed ++ [a]) (List.forall_mem_append.mpr ⟨hpassed, ?_⟩)
        exact List.forall_mem_singleton.mpr (Bool.eq_false_iff.mpr hsep)
  exact hpassed [] (List.forall_mem_nil _)

/-- No part has a separator. -/
theorem not_isSeparator_of_mem_segments {as part : List α} (h : part ∈ segments isSeparator as) :
    ∀ a ∈ part, isSeparator a = false := by
  induction as using segments_induction isSeparator with
  | part as has =>
    rw [segments_of_forall has] at h
    rwa [List.mem_singleton.mp h]
  | append as sep bs hsep ihas ihbs =>
    rw [segments_append hsep] at h
    exact (List.mem_append.mp h).elim ihas ihbs

/-- Parts that are put together again are found again. -/
theorem segments_intercalate {sep : α} (hsep : isSeparator sep = true) {parts : List (List α)}
    (hne : parts ≠ []) (h : ∀ part ∈ parts, ∀ a ∈ part, isSeparator a = false) :
    segments isSeparator ([sep].intercalate parts) = parts := by
  induction parts with
  | nil => exact absurd rfl hne
  | cons part parts ih =>
    have hpart := segments_of_forall (h part List.mem_cons_self)
    by_cases hnil : parts = []
    · subst hnil
      rw [List.intercalate_singleton, hpart]
    · rw [List.intercalate_cons_of_ne_nil hnil, List.append_assoc, List.singleton_append,
        segments_append hsep, hpart, ih hnil fun p hp => h p (List.mem_cons_of_mem _ hp)]
      rfl

end Text
end PlannerTrials
