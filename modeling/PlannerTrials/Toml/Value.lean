/-!
# Values of a TOML document

Strings, integers of any size, tables and arrays are kept as they are.  Of the other kinds only what
can matter is kept: that a value is a date, a truth value, or a number with a fraction, and whether
such a number lies in the range of the doubles.
-/

namespace PlannerTrials.Toml

/-- A value of a TOML document.  The entries of a table are in the order of the document. -/
inductive Value where
  | string (text : String)
  | integer (value : Int)
  | float (inRange : Bool)
  | boolean (value : Bool)
  | moment
  | array (items : List Value)
  | table (entries : List (String × Value))

/-- The entries of a table. -/
abbrev Table := List (String × Value)

/-- The least integer of 128 bits with a sign. -/
def leastWord : Int := -0x80000000000000000000000000000000

/-- The integers of 128 bits without a sign lie below this one. -/
def wordLimit : Int := 0x100000000000000000000000000000000

/-- Whether an integer has a word of 128 bits, with or without a sign. -/
def fitsWord (n : Int) : Bool := decide (leastWord ≤ n ∧ n < wordLimit)

mutual

/-- Whether every number in a value has a size that can be represented, integers as one word of
128 bits with or without sign, and the others as doubles. -/
def Value.representable : Value → Bool
  | .integer n => fitsWord n
  | .float inRange => inRange
  | .array items => Value.allRepresentable items
  | .table entries => Value.tableRepresentable entries
  | _ => true

/-- Whether every number in a list of values can be represented. -/
def Value.allRepresentable : List Value → Bool
  | [] => true
  | v :: vs => v.representable && Value.allRepresentable vs

/-- Whether every number in a table can be represented. -/
def Value.tableRepresentable : Table → Bool
  | [] => true
  | (_, v) :: rest => v.representable && Value.tableRepresentable rest

end

end PlannerTrials.Toml
