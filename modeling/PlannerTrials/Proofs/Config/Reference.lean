import PlannerTrials.Config.Reference
import Mathlib.Data.List.Basic

/-!
# What the environment can do to a configuration

A document is parsed first and its references are expanded afterwards, text by text.  So an environment
has no say in whether a document is a configuration, in which entries it has, and in how many items
its lists have, whatever the values of its variables are.  All that it can change is single texts, and
of these only the ones in which a reference leads to a variable.

`Config.environment_keeps_shape` says this about two environments.  It compares the configurations that
they give to one document: `Config.Alike` goes through the entries, and two texts in the same place
may differ only if they come from a text that `Refers` to a name with different values
(`Reference.Agree`).  A name that occurs without being a reference does not count.
-/

namespace PlannerTrials

namespace Reference

/-! ## The names that a text refers to -/

/-- A text has a reference to a name. -/
def Refers (text name : String) : Prop := .reference name.toList ∈ pieces text.toList

/-! ## Expanding in two environments -/

section Environments

variable (E F : Environment)

/-- Two texts are the same unless the text that they come from refers to a name with different values. -/
def Agree (written left right : String) : Prop :=
  left = right ∨ ∃ name, Refers written name ∧ E name ≠ F name

/-- A piece looks at the environment only where it is a reference. -/
theorem Piece.value_congr {piece : Piece}
    (h : ∀ name : String, piece = .reference name.toList → E name = F name) :
    piece.value E = piece.value F := by
  cases piece with
  | char c => rfl
  | reference name =>
    have hsame := h (String.ofList name) (by rw [String.toList_ofList])
    rw [Piece.value, Piece.value, hsame]

/-- **Expanding a text looks only at the names that it refers to.** -/
theorem expand_congr {text : String} (h : ∀ name, Refers text name → E name = F name) :
    expand E text = expand F text := by
  have hpieces : ∀ piece ∈ pieces text.toList, piece.value E = piece.value F := by
    intro piece hpiece
    refine Piece.value_congr E F fun name hname => h name ?_
    rw [hname] at hpiece
    exact hpiece
  rw [expand, expand, List.flatMap_congr hpieces]

theorem agree_expand (text : String) : Agree E F text (expand E text) (expand F text) := by
  by_cases hsame : ∀ name, Refers text name → E name = F name
  · exact .inl (expand_congr E F hsame)
  · obtain ⟨name, hname⟩ := not_forall.mp hsame
    exact .inr ⟨name, Classical.not_imp.mp hname⟩

end Environments

end Reference

/-! ## Lists beside each other -/

/-- Three lists have the same length, and their items in the same place are related. -/
inductive Beside {α β γ : Type} (R : α → β → γ → Prop) : List α → List β → List γ → Prop where
  | nil : Beside R [] [] []
  | cons {a b c as bs cs} : R a b c → Beside R as bs cs → Beside R (a :: as) (b :: bs) (c :: cs)

/-- A list stands beside what two functions make of it. -/
theorem beside_map {α β γ : Type} {R : α → β → γ → Prop} {f : α → β} {g : α → γ}
    (h : ∀ a, R a (f a) (g a)) (as : List α) : Beside R as (as.map f) (as.map g) := by
  induction as with
  | nil => exact .nil
  | cons a as ih => exact .cons (h a) ih

open Reference (Agree agree_expand)

section Configurations

variable (E F : Environment)

/-- Two ways to launch a solver that come from one and differ only in texts that refer to a name with
different values. -/
structure LaunchSpec.Alike (written left right : LaunchSpec) : Prop where
  program : Agree E F written.program left.program right.program
  arguments : Beside (Agree E F) written.arguments left.arguments right.arguments
  /-- Both have a folder to start in, or neither. -/
  workingFolder : Beside (Agree E F) written.workingFolder.toList left.workingFolder.toList
    right.workingFolder.toList

/-- Two configurations that come from one and differ only in texts that refer to a name with different
values. -/
structure Config.Alike (written left right : Config) : Prop where
  benchmarksFolder : Agree E F written.benchmarksFolder left.benchmarksFolder right.benchmarksFolder
  domains : Beside (Agree E F) written.domains left.domains right.domains
  sampleSize : left.sampleSize = right.sampleSize
  descriptionName : left.descriptionName = right.descriptionName
  problemStart : left.problemStart = right.problemStart
  problemEnd : left.problemEnd = right.problemEnd
  outputPath : Agree E F written.outputPath left.outputPath right.outputPath
  /-- Both have the same solvers under the same names. -/
  solvers : Beside (fun entry a b => a.1 = entry.1 ∧ b.1 = entry.1 ∧
    LaunchSpec.Alike E F entry.2 a.2 b.2) written.solvers left.solvers right.solvers

theorem LaunchSpec.alike_expanded (spec : LaunchSpec) :
    LaunchSpec.Alike E F spec (spec.expanded E) (spec.expanded F) where
  program := agree_expand E F spec.program
  arguments := beside_map (agree_expand E F) spec.arguments
  workingFolder := by
    cases hfolder : spec.workingFolder with
    | none => simpa [LaunchSpec.expanded, hfolder] using Beside.nil
    | some folder =>
      simpa [LaunchSpec.expanded, hfolder] using Beside.cons (agree_expand E F folder) .nil

theorem Config.alike_expanded (config : Config) :
    Config.Alike E F config (config.expanded E) (config.expanded F) where
  benchmarksFolder := agree_expand E F config.benchmarksFolder
  domains := beside_map (agree_expand E F) config.domains
  sampleSize := rfl
  descriptionName := rfl
  problemStart := rfl
  problemEnd := rfl
  outputPath := agree_expand E F config.outputPath
  solvers := beside_map (fun entry => ⟨rfl, rfl, entry.2.alike_expanded E F⟩) config.solvers

/-- **The environment keeps the shape of a configuration.**  In two environments, a document fails with the
same failure or gives configurations that differ only in texts that refer to a name with different
values.  What is told of a document that describes no configuration may be any function of it. -/
theorem Config.environment_keeps_shape (complaint : String → String) (document : String)
    (E F : Environment) :
    (∃ failure, Config.read complaint E document = .error failure ∧
        Config.read complaint F document = .error failure) ∨
      ∃ written left right, Config.parse complaint document = .ok written ∧
        Config.read complaint E document = .ok left ∧
        Config.read complaint F document = .ok right ∧ Config.Alike E F written left right := by
  unfold Config.read
  cases Config.parse complaint document with
  | error failure => exact .inl ⟨failure, rfl, rfl⟩
  | ok written => exact .inr ⟨written, _, _, rfl, rfl, rfl, written.alike_expanded E F⟩

end Configurations

end PlannerTrials
