import PlannerTrials.Host.Regex.Basic

/-!
# Patterns for names

Names are matched by patterns that are simpler than expressions: a star stands for any characters, a
question mark for one, and a set in brackets for one of a set.  Such a pattern means an expression.
Whether a sign has its meaning depends on how the pattern was written, so each character comes with
whether it was quoted.
-/

namespace PlannerTrials.Host

namespace Wildcard

/-- Characters with whether they were quoted. -/
abbrev Letters := List (Char × Bool)

/-- Reads the ranges of a set up to its closing bracket, which may also come first. -/
def readSet : (fuel : Nat) → (first : Bool) → Letters → Option (List (Char × Char) × Letters)
  | 0, _, _ => none
  | fuel + 1, first, cs =>
    match first, cs with
    | _, [] => none
    | false, (']', false) :: rest => some ([], rest)
    | _, ('[', false) :: (':', false) :: rest =>
      let name := (rest.takeWhile fun c => c.1 ≠ ':').map (·.1)
      match rest.dropWhile (fun c => c.1 ≠ ':'), CharClass.named? name with
      | (':', _) :: (']', _) :: rest, some cls =>
        (readSet fuel false rest).map fun (more, r) => (cls.ranges ++ more, r)
      | _, _ => (readSet fuel false ((':', false) :: rest)).map fun (more, r) => (('[', '[') :: more, r)
    | _, (low, _) :: ('-', false) :: (']', false) :: rest =>
      (readSet fuel false ((']', false) :: rest)).map fun (more, r) =>
        ((low, low) :: ('-', '-') :: more, r)
    | _, (low, _) :: ('-', false) :: (high, _) :: rest =>
      (readSet fuel false rest).map fun (more, r) => ((low, high) :: more, r)
    | _, (c, _) :: rest => (readSet fuel false rest).map fun (more, r) => ((c, c) :: more, r)

/-- The expression that a pattern for names means: a star for any characters, a question mark for one,
a set in brackets, and any other character for itself. -/
def meaning : (fuel : Nat) → Letters → Regex
  | 0, _ => .empty
  | _, [] => .empty
  | fuel + 1, (c, quoted) :: rest =>
    let plain : Regex := .both (.one (.exactly c)) (meaning fuel rest)
    if quoted then plain
    else
      match c with
      | '*' => .both (.repeated (.one .any) 0 none) (meaning fuel rest)
      | '?' => .both (.one .any) (meaning fuel rest)
      | '\\' =>
        match rest with
        | (d, _) :: rest => .both (.one (.exactly d)) (meaning fuel rest)
        | [] => plain
      | '[' =>
        let (negated, inner) : Bool × Letters := match rest with
          | ('!', false) :: inner => (true, inner)
          | inner => (false, inner)
        match readSet (inner.length + 1) true inner with
        | some (ranges, rest) => .both (.one (.among negated ranges [])) (meaning fuel rest)
        | none => plain
      | _ => plain

end Wildcard

/-- The expression that a pattern for names means. -/
def Regex.ofWildcards (cs : Wildcard.Letters) : Regex := Wildcard.meaning (cs.length + 1) cs

end PlannerTrials.Host
