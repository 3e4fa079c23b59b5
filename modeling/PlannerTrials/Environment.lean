/-!
# Environments

The variables with which a program is started.  A system keeps a variable as its setting, the name
and the value with an equals sign between them, and finds the value of a name behind the first
setting that goes on with an equals sign after the name.  So a name that itself holds an equals sign can
be found, although no variable has it.
-/

namespace PlannerTrials

/-- The variables of an environment with their values. -/
abbrev Environment := String → Option String

namespace Environment

/-- What a setting says about a name. -/
def ofSetting? (name setting : List Char) : Option (List Char) :=
  if (name ++ ['=']).isPrefixOf setting then some (setting.drop (name.length + 1)) else none

/-- The environment of variables with their values. -/
def ofVariables (bindings : List (String × String)) : Environment := fun name =>
  bindings.findSome? fun (n, value) =>
    (ofSetting? name.toList (n.toList ++ '=' :: value.toList)).map String.ofList

end Environment

end PlannerTrials
