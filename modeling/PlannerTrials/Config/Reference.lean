import PlannerTrials.Config.Document
import PlannerTrials.Environment
import PlannerTrials.Files.Fault
import PlannerTrials.Text.Utf8

/-!
# References to the environment

In the texts of a configuration, a name between a dollar sign with an opening brace and a closing
brace refers to a variable of the environment.  A text is a sequence of `Piece`s, characters and
references, read from left to right; the name of a reference has at least one character and no
closing brace.  `expand` puts the values of the variables in the place of the references and keeps a
reference to an unset variable as it is written.  Values are not looked at again.

A configuration is read completely before its references are expanded, so that no value can change
its shape.
-/

namespace PlannerTrials

namespace Reference

/-- A part of a text with references. -/
inductive Piece where
  | char (c : Char)
  | reference (name : List Char)
  deriving DecidableEq, Repr

/-- A piece as it is written. -/
def Piece.text : Piece → List Char
  | .char c => [c]
  | .reference name => '$' :: '{' :: name ++ ['}']

/-- The name of the reference that starts a text, with what follows the reference. -/
def split? : List Char → Option (List Char × List Char)
  | '$' :: '{' :: rest =>
    match rest.takeWhile (· ≠ '}'), rest.dropWhile (· ≠ '}') with
    | [], _ => none
    | _, [] => none
    | name, _ :: after => some (name, after)
  | _ => none

theorem eq_of_split? {cs name after : List Char} (h : split? cs = some (name, after)) :
    cs = '$' :: '{' :: name ++ '}' :: after ∧ name ≠ [] ∧ '}' ∉ name := by
  unfold split? at h
  split at h
  · rename_i rest
    have whole := List.takeWhile_append_dropWhile (p := fun c => decide (c ≠ '}')) (l := rest)
    split at h
    · simp at h
    · simp at h
    · rename_i taken first dropped hdrop nonempty
      simp only [Option.some.injEq, Prod.mk.injEq] at h
      obtain ⟨rfl, rfl⟩ := h
      have hfirst : first = '}' := by
        have := List.head?_dropWhile_not (fun c => decide (c ≠ '}')) rest
        rw [hdrop] at this
        simpa using this
      refine ⟨?_, ?_, ?_⟩
      · rw [hfirst] at hdrop
        rw [List.cons_append, List.cons_append, ← hdrop, whole]
      · intro hnil
        exact nonempty hnil
      · intro hmem
        have := List.all_takeWhile (p := fun c => decide (c ≠ '}')) (l := rest)
        rw [List.all_eq_true] at this
        simpa using this _ hmem
  · simp at h

/-- The pieces of a text. -/
def pieces : List Char → List Piece
  | [] => []
  | c :: cs =>
    match _h : split? (c :: cs) with
    | some (name, after) => .reference name :: pieces after
    | none => .char c :: pieces cs
termination_by cs => cs.length
decreasing_by
  · have := congrArg List.length (eq_of_split? _h).1
    simp at this ⊢
    omega
  · simp

/-- A piece with the value of its variable, if that is set. -/
def Piece.value (env : Environment) : Piece → List Char
  | .char c => [c]
  | .reference name =>
    match env (String.ofList name) with
    | some value => value.toList
    | none => (Piece.reference name).text

/-- A text with the values of the variables that it refers to. -/
def expand (env : Environment) (s : String) : String :=
  String.ofList ((pieces s.toList).flatMap (Piece.value env))

end Reference

open Reference (expand)

/-- A way to launch a solver with the values of the variables that it refers to. -/
def LaunchSpec.expanded (env : Environment) (spec : LaunchSpec) : LaunchSpec where
  program := expand env spec.program
  arguments := spec.arguments.map (expand env)
  workingFolder := spec.workingFolder.map (expand env)

namespace Config

/-- A configuration with the values of the variables that its paths, domains and solvers refer
to. -/
def expanded (env : Environment) (config : Config) : Config :=
  { config with
    benchmarksFolder := expand env config.benchmarksFolder
    outputPath := expand env config.outputPath
    domains := config.domains.map (expand env)
    solvers := config.solvers.map fun (name, spec) => (name, spec.expanded env) }

/-- The configuration that a document describes in an environment. -/
def read (complaint : String → String) (env : Environment) (document : String) :
    Except Failure Config :=
  (parse complaint document).map (expanded env)

/-- The configuration that the content of a file describes in an environment. -/
def ofFile (complaint : String → String) (env : Environment) :
    Except Files.Fault Bytes → Except Failure Config
  | .error fault => .error (.file fault)
  | .ok content =>
    match Utf8.decodeString? content with
    | none => .error (.file .notText)
    | some document => read complaint env document

end Config

end PlannerTrials
