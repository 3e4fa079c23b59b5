import PlannerTrials.Cli.Arguments

/-!
# What is said about the arguments

Arguments that are not accepted are answered with a sentence about the mistake and with how the program
is used.  Who asks for help gets only the latter, and so does who gives no arguments at all.
-/

namespace PlannerTrials.Cli

/-- How the program is used. -/
def usage : String :=
  "Benchmark the SAT and HSP planners over a PDDL corpus\n\n" ++
  "Usage: planner-bench [OPTIONS] <COMMAND>\n\n" ++
  "Commands:\n" ++
  "  run     Run every solver on every selected problem and write the comparison CSV\n" ++
  "            -c, --config <CONFIG>  Path to TOML configuration file\n" ++
  "                                   [default: planner-bench.toml]\n" ++
  "            -o, --output <OUTPUT>  Override the output path of the configuration\n" ++
  "                --dry-run          Show the selected problems without launching any solver\n" ++
  "  report  Summarise a comparison CSV per domain\n" ++
  "            -i, --input <INPUT>    Comparison CSV produced by run\n" ++
  "                                   [default: comparison_results.csv]\n" ++
  "                --json             Print the summary as JSON\n" ++
  "  help    Print this message\n\n" ++
  "Options:\n" ++
  "  -v, --verbose    Enable verbose output\n" ++
  "      --json-logs  Emit logs as JSON lines\n" ++
  "  -h, --help       Print help\n"

namespace UsageFault

/-- The mistake in a sentence, if there is one. -/
def message? : UsageFault → Option String
  | .unknownArgument => some "unexpected argument found"
  | .unknownCommand => some "unrecognized subcommand"
  | .badValue => some "a value is required for an argument but none was supplied"
  | .repeatedFlag => some "an argument cannot be used multiple times"
  | .needlessValue => some "unexpected value for an argument found; no more were expected"
  | .missingCommand => some "a subcommand is required but one was not provided"
  | .noArguments | .help => none

/-- What is said in answer to arguments that are not accepted. -/
def answer (fault : UsageFault) : String :=
  match fault.message? with
  | some message => "error: " ++ message ++ "\n\n" ++ usage
  | none => usage

end UsageFault

end PlannerTrials.Cli
