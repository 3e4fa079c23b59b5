import PlannerTrials.Host.Tool.Small

/-!
# Programs that launch others

`env` launches a program with changed variables, and `timeout` gives it some time.  Here is read what
they are asked for.
-/

namespace PlannerTrials.Host

namespace Launcher

/-- What `env` is asked for: the variables to start from, and the program with its arguments. -/
structure Changed where
  bindings : List (Raw × Raw)
  command : List Raw

/-- Reads assignments and what follows them. -/
def readAssigned : (fuel : Nat) → Changed → List Raw → Changed
  | 0, c, _ => c
  | _, c, [] => c
  | fuel + 1, c, argument :: rest =>
    if argument.contains '=' then
      let name := argument.takeWhile (· ≠ '=')
      let value := (argument.dropWhile (· ≠ '=')).drop 1
      readAssigned fuel { c with bindings := c.bindings.filter (·.1 ≠ name) ++ [(name, value)] } rest
    else { c with command := argument :: rest }

/-- Reads the options and assignments of `env`. -/
def readChanges : (fuel : Nat) → Changed → List Raw → Except Raw Changed
  | 0, c, _ => .ok c
  | _, c, [] => .ok c
  | fuel + 1, c, argument :: rest =>
    match String.ofList argument with
    | "-" | "-i" | "--ignore-environment" => readChanges fuel { c with bindings := [] } rest
    | "-u" =>
      match rest with
      | name :: rest =>
        readChanges fuel { c with bindings := c.bindings.filter (·.1 ≠ name) } rest
      | [] => .error "option requires an argument -- 'u'".toList
    | "--" => .ok (readAssigned fuel c rest)
    | _ =>
      match argument with
      | '-' :: '-' :: _ => .error ("unrecognized option ".toList ++ Tool.quoted argument)
      | '-' :: letter :: _ => .error ("invalid option -- ".toList ++ Tool.quoted [letter])
      | _ => .ok (readAssigned fuel c (argument :: rest))

/-- Reads the options of `timeout` and the time; the result is the program with its arguments. -/
def readLimited : (fuel : Nat) → List Raw → Except Raw (Raw × List Raw)
  | 0, _ => .error []
  | _, [] => .error []
  | fuel + 1, argument :: rest =>
    match String.ofList argument with
    | "-v" | "--verbose" | "--foreground" | "--preserve-status" => readLimited fuel rest
    | "-k" | "-s" =>
      match rest with
      | _ :: rest => readLimited fuel rest
      | [] =>
        .error ("option requires an argument -- ".toList ++ Tool.quoted (argument.drop 1))
    | text =>
      match argument with
      | '-' :: '-' :: _ =>
        if text = "--" then limited rest
        else .error ("unrecognized option ".toList ++ Tool.quoted argument)
      | '-' :: letter :: _ => .error ("invalid option -- ".toList ++ Tool.quoted [letter])
      | _ => limited (argument :: rest)
where
  /-- Reads the time and what follows it. -/
  limited : List Raw → Except Raw (Raw × List Raw)
    | time :: command :: rest =>
      if Tool.isTime time then .ok (command, rest)
      else .error ("invalid time interval ".toList ++ Tool.quoted time)
    | _ => .error []

end Launcher

end PlannerTrials.Host
