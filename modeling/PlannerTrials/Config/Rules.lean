import PlannerTrials.Failure
import PlannerTrials.Text.Blank

/-!
# Rules for single entries of a configuration

Each rule accepts a value or names the entry, the value and the reason why it is not allowed.
-/

namespace PlannerTrials.Rule

/-- A path has at least one character and none of them is NUL. -/
def path (field value : String) : Except Failure Unit :=
  if value = "" then .error (.configValue field value "Path cannot be empty")
  else if value.toList.contains '\x00' then
    .error (.configValue field value "Path contains null bytes")
  else .ok ()

/-- A number is at least `least`. -/
def atLeast (field : String) (value least : Nat) : Except Failure Unit :=
  if value < least then
    .error (.configValue field (toString value) ("Value must be at least " ++ toString least))
  else .ok ()

/-- A text has a character that is not blank. -/
def notBlank (field value : String) : Except Failure Unit :=
  if Text.isBlankString value then
    .error (.configValue field value "Value cannot be empty or whitespace-only")
  else .ok ()

/-- A list has an item. -/
def notEmpty (field : String) (values : List String) : Except Failure Unit :=
  if values = [] then .error (.configMissing field) else .ok ()

/-- No item of a list is among those before it; `earlier` are the items already passed. -/
def distinctFrom (field : String) (earlier : List String) : List String → Except Failure Unit
  | [] => .ok ()
  | value :: rest =>
    if value ∈ earlier then .error (.configValue field value "Duplicate entry")
    else distinctFrom field (value :: earlier) rest

/-- No two items of a list are equal. -/
def distinct (field : String) (values : List String) : Except Failure Unit :=
  distinctFrom field [] values

/-- Whether a text is the name of an entry of a folder: neither the folder itself nor the one above,
and without a character that separates names. -/
def isSegment (value : String) : Bool :=
  value ≠ "." && value ≠ ".." && !value.toList.contains '/' && !value.toList.contains '\\'

/-- A name that is joined to a path leads to an entry of the folder that the path leads to. -/
def segment (field value : String) : Except Failure Unit := do
  notBlank field value
  if isSegment value then .ok ()
  else .error (.configValue field value "Must be a single directory name")

end PlannerTrials.Rule
