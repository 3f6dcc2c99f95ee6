import HostWatch.CommandLine.Arguments

/-!
# Outcomes of commands

What a command leaves behind for whoever called it: an exit code and what it wrote.
-/

namespace HostWatch

/-- What a command leaves behind. -/
structure CommandOutcome where
  /-- The exit code: 0, 1 after a failure, 2 after wrong arguments. -/
  exitCode : UInt32 := 0
  /-- What it wrote to its standard output. -/
  output : String := ""
  /-- What it wrote to its standard error. -/
  errors : String := ""
  deriving DecidableEq, Repr

/-- The outcome of a command that failed for a reason. -/
def CommandOutcome.failure (reason : String) : CommandOutcome :=
  { exitCode := 1, errors := "Error: " ++ reason ++ "\n" }

/-- The outcome of arguments that ask for nothing that could be done. -/
def CommandOutcome.ofStop (usage : String) : Arguments.Stop → CommandOutcome
  | .help => { output := usage }
  | .usage => { exitCode := 2, errors := usage }

end HostWatch
