import PlannerTrials.Host.Tool.Arrange
import PlannerTrials.Host.Tool.Change
import PlannerTrials.Host.Tool.Copy
import PlannerTrials.Host.Tool.Expression
import PlannerTrials.Host.Tool.Format
import PlannerTrials.Host.Tool.Search
import PlannerTrials.Host.Tool.Small

/-!
# The tools of a host

The programs that every host has: the tools, and those that launch other programs.
-/

namespace PlannerTrials.Host

namespace Tool

/-- The tools by name. -/
def known : List (String × Tool) :=
  [("[", testBracketed), ("basename", basename), ("cat", cat), ("cp", cp), ("cut", cut),
    ("dirname", dirname), ("echo", echo), ("egrep", grepIn "-E"), ("expr", expr),
    ("false", ending "false" 1), ("fgrep", grepIn "-F"), ("grep", grep),
    ("head", head), ("ln", ln), ("ls", ls), ("mkdir", mkdir), ("mv", mv), ("printenv", printenv),
    ("printf", printf), ("pwd", pwd), ("rev", rev), ("rm", rm), ("rmdir", rmdir), ("seq", seq),
    ("sleep", sleep), ("sort", sort), ("tac", tac), ("tail", tail), ("tee", tee), ("test", test),
    ("touch", touch), ("tr", tr), ("true", ending "true" 0), ("uniq", uniq),
    ("wc", wc), ("yes", yes)]

/-- The names of the programs: the tools, the shell under its two names, and the programs that launch
another one in a changed environment or for some time. -/
def programs : List String := known.map (·.1) ++ ["dash", "env", "sh", "timeout"]

end Tool

end PlannerTrials.Host
