import PlannerTrials.Table.Basic

/-!
# The records of a domain

`groups` puts the records of a table into one group for each domain.  The groups stand in the order
in which their domains first appear, and the records of a group in the order of the table, also
where the records of a domain are scattered over the table.
-/

namespace PlannerTrials

/-- Records of one domain. -/
structure Group where
  domain : String
  records : List Record
  deriving DecidableEq

namespace Group

/-- Puts a record at the end of the group of its domain, or in a new group after all others. -/
def insert (record : Record) : List Group → List Group
  | [] => [⟨record.domain, [record]⟩]
  | g :: gs =>
    if g.domain = record.domain then { g with records := g.records ++ [record] } :: gs
    else g :: insert record gs

/-- The groups of a table. -/
def groups (records : List Record) : List Group := records.foldl (fun gs r => insert r gs) []

end Group

end PlannerTrials
