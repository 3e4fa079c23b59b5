import PlannerTrials.Toml.Value

/-!
# Tables while a document is read

A table of a document can come into being in three ways: by its own header, because a longer header
names it, or because a dotted key names it.  Which way decides what may still be added to it:

* a header may open a table that is new or that only longer headers have named so far;
* a dotted key may lead through a table that no header of its own has opened, and through the last
  table of an array, but its value goes only into a table that dotted keys have made;
* a header in double brackets appends to an array that only such headers have built.

No key is ever given two values.  A `Node` keeps the origin of each table until the end, and
`toTable` forgets it.
-/

namespace PlannerTrials.Toml

/-- How a table of a document came into being. -/
inductive Origin where
  | header
  | longerHeader
  | dottedKey
  deriving DecidableEq

/-- A value of a document that may still grow. -/
inductive Node where
  | value (value : Value)
  | table (origin : Origin) (entries : List (String × Node))
  | tables (earlier : List (List (String × Node))) (last : List (String × Node))

/-- The entries of a table that may still grow. -/
abbrev Entries := List (String × Node)

namespace Entries

/-- The node under a key. -/
def get? (entries : Entries) (key : String) : Option Node := entries.lookup key

/-- Puts a node under a key, in the place of the one that is there or else at the end. -/
def set : Entries → String → Node → Entries
  | [], key, node => [(key, node)]
  | (k, n) :: rest, key, node => if k = key then (key, node) :: rest else (k, n) :: set rest key node

/-- Gives a dotted key its value. -/
def assign (value : Value) : List String → Entries → Option Entries
  | [], _ => none
  | [key], entries =>
    match entries.get? key with
    | none => some (entries.set key (.value value))
    | some _ => none
  | [key, final], entries =>
    match entries.get? key with
    | none => some (entries.set key (.table .dottedKey [(final, .value value)]))
    | some (.table .dottedKey inner) =>
      (assign value [final] inner).map fun inner => entries.set key (.table .dottedKey inner)
    | some _ => none
  | key :: path, entries =>
    match entries.get? key with
    | none => (assign value path []).map fun inner => entries.set key (.table .dottedKey inner)
    | some (.table .header _) => none
    | some (.table origin inner) =>
      (assign value path inner).map fun inner => entries.set key (.table origin inner)
    | some (.tables earlier last) =>
      (assign value path last).map fun last => entries.set key (.tables earlier last)
    | some (.value _) => none

/-- Changes the table that the path of a header leads to; of an array of tables the last counts. -/
def within (change : Entries → Option Entries) : List String → Entries → Option Entries
  | [], entries => change entries
  | key :: path, entries =>
    match entries.get? key with
    | none => (within change path []).map fun inner => entries.set key (.table .longerHeader inner)
    | some (.table origin inner) =>
      (within change path inner).map fun inner => entries.set key (.table origin inner)
    | some (.tables earlier last) =>
      (within change path last).map fun last => entries.set key (.tables earlier last)
    | some (.value _) => none

/-- Opens a table under a key by its own header. -/
def openTable (key : String) (entries : Entries) : Option Entries :=
  match entries.get? key with
  | none => some (entries.set key (.table .header []))
  | some (.table .longerHeader inner) => some (entries.set key (.table .header inner))
  | some _ => none

/-- Appends an empty table to the array of tables under a key. -/
def appendTable (key : String) (entries : Entries) : Option Entries :=
  match entries.get? key with
  | none => some (entries.set key (.tables [] []))
  | some (.tables earlier last) => some (entries.set key (.tables (earlier ++ [last]) []))
  | some _ => none

end Entries

mutual

/-- The value that a node has at the end of the document. -/
def Node.toValue : Node → Value
  | .value v => v
  | .table _ entries => .table (Node.toTable entries)
  | .tables earlier last => .array (Node.toTables earlier ++ [.table (Node.toTable last)])

/-- The table that entries form at the end of the document. -/
def Node.toTable : List (String × Node) → List (String × Value)
  | [] => []
  | (key, node) :: rest => (key, node.toValue) :: Node.toTable rest

/-- The tables of an array at the end of the document. -/
def Node.toTables : List (List (String × Node)) → List Value
  | [] => []
  | entries :: rest => .table (Node.toTable entries) :: Node.toTables rest

end

end PlannerTrials.Toml
