import RegistrySchema.CommandLine.Invocation

/-!
# Help

What is shown instead of a run: how the commands are used, and why a command line is refused.
-/

namespace RegistrySchema.CommandLine

/-- How the commands are used. -/
def synopsis : String :=
  "Usage: mcschema extract [OPTIONS] <SNAPSHOT>\n"
    ++ "       mcschema check [OPTIONS] <REPORT>\n"
    ++ "\n"
    ++ "Options:\n"
    ++ "  -o, --output <FILE>   extract: write the report to a file instead of the output\n"
    ++ "      --namespace <NS>  extract: namespace left out of names [default: minecraft]\n"
    ++ "      --player <KIND>   extract: entity kind to skip [default: minecraft:player]\n"
    ++ "      --strict          extract: fail on errors; check: fail on warnings too\n"
    ++ "      --color <WHEN>    auto, always or never [default: auto]\n"
    ++ "  -v                    talk more; twice for skipped kinds\n"
    ++ "  -h, --help            print help\n"

/-- Why a command line is refused, in words. -/
def UsageError.message : UsageError → String
  | noCommand => ""
  | helpWanted => ""
  | unknownCommand => "error: unknown command\n\n"
  | unknownArgument => "error: unexpected argument\n\n"
  | badValue => "error: a value is missing or does not fit\n\n"
  | missingInput => "error: the file to work on is missing\n\n"
  | repeated => "error: an argument is given twice\n\n"
  | needlessValue => "error: a value is given where there is none\n\n"

/-- What is shown for a command line without an invocation. -/
def UsageError.text (err : UsageError) : String := err.message ++ synopsis

end RegistrySchema.CommandLine
