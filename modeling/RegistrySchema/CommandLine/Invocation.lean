/-!
# Invocations

What a command line asks for, and why one is refused.
-/

namespace RegistrySchema.CommandLine

/-- When to print in color. -/
inductive ColorChoice where
  /-- On a terminal. -/
  | auto
  | always
  | never
  deriving DecidableEq, Inhabited, Repr

/-- The choices by name. -/
def ColorChoice.names : List (String × ColorChoice) :=
  [("auto", .auto), ("always", .always), ("never", .never)]

/-- The choice of a name. -/
def ColorChoice.ofName? (name : String) : Option ColorChoice :=
  (names.find? fun entry => entry.1 = name).map Prod.snd

/-- Whether to print in color, on a terminal or not. -/
def ColorChoice.decide (choice : ColorChoice) (terminal : Bool) : Bool :=
  match choice with
  | .auto => terminal
  | .always => true
  | .never => false

/-- What both commands understand. -/
structure Manner where
  /-- Whether findings make the command fail that otherwise do not. -/
  strict : Bool
  /-- When to print in color. -/
  color : ColorChoice
  /-- How talkative the command is. -/
  verbosity : Nat
  deriving DecidableEq, Inhabited, Repr

/-- A command with its arguments. -/
inductive Invocation where
  /-- Extract a schema from a snapshot and write the report to a file or to the output. -/
  | extract (snapshot : String) (output space player : Option String) (manner : Manner)
  /-- Check a report. -/
  | check (report : String) (manner : Manner)
  deriving DecidableEq, Inhabited, Repr

/-- The common arguments. -/
def Invocation.manner : Invocation → Manner
  | extract _ _ _ _ manner => manner
  | check _ manner => manner

/-- Why a command line is refused, or answered by help instead of a run. -/
inductive UsageError where
  /-- There is no command. -/
  | noCommand
  /-- Help is asked for. -/
  | helpWanted
  /-- There is no command of that name. -/
  | unknownCommand
  /-- A flag that the command does not have, or one word too many. -/
  | unknownArgument
  /-- A value that does not fit, or none where there has to be one. -/
  | badValue
  /-- The file to work on is not given. -/
  | missingInput
  /-- An argument is given again. -/
  | repeated
  /-- A value is attached to a flag that has none. -/
  | needlessValue
  deriving DecidableEq, Inhabited, Repr

/-- The exit code; help that is asked for is a success. -/
def UsageError.exitCode : UsageError → Nat
  | helpWanted => 0
  | _ => 2

end RegistrySchema.CommandLine
