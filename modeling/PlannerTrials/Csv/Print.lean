/-!
# Writing comma-separated text

A field is put between quotation marks if it contains a comma, a quotation mark or a line break, and
then its quotation marks are doubled.  Every record ends with a line feed.  All records have as many
fields as the first one, and a record with another number of fields is refused.
-/

namespace PlannerTrials.Csv

/-- Whether a field with this character needs quotation marks. -/
def needsMarks (c : Char) : Bool := c = ',' || c = '"' || c = '\n' || c = '\r'

/-- A text with its quotation marks doubled. -/
def doubled (field : List Char) : List Char :=
  field.flatMap fun c => if c = '"' then ['"', '"'] else [c]

/-- A field as it is written. -/
def printField (field : List Char) : List Char :=
  if field.any needsMarks then '"' :: doubled field ++ ['"'] else field

/-- A record as it is written. -/
def printRecord (fields : List (List Char)) : List Char :=
  [','].intercalate (fields.map printField) ++ ['\n']

/-- A record that does not have as many fields as the first one. -/
structure WidthFault where
  found : Nat
  expected : Nat
  deriving DecidableEq, Repr

/-- What the fault is. -/
def WidthFault.message (fault : WidthFault) : String :=
  "CSV error: found record with " ++ toString fault.found ++
    " fields, but the previous record has " ++ toString fault.expected ++ " fields"

/-- Records with a given number of fields as they are written. -/
def printWide (width : Nat) : List (List (List Char)) → Except WidthFault (List Char)
  | [] => .ok []
  | fields :: rest =>
    if fields.length = width then (printWide width rest).map (printRecord fields ++ ·)
    else .error ⟨fields.length, width⟩

/-- Records as they are written, all with as many fields as the first one. -/
def printRecords : List (List (List Char)) → Except WidthFault (List Char)
  | [] => .ok []
  | first :: rest => printWide first.length (first :: rest)

end PlannerTrials.Csv
