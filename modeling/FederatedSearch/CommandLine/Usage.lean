import FederatedSearch.CommandLine.Command
import FederatedSearch.Engine.Service

/-!
# Usage

What is shown when arguments are not accepted, or help is asked for.
-/

namespace FederatedSearch.CommandLine

/-- A summary of the commands. -/
def usage : String :=
  "Usage: fedsearch [--format human|json] <command>\nCommands: " ++ ", ".intercalate commandNames

namespace UsageFault

/-- The wording of a fault. For a request it is what is asked for. -/
def message : UsageFault → String
  | .unknownArgument => "error: unexpected argument"
  | .invalidValue => "error: a value is missing or is none of the possible ones"
  | .malformedValue => "error: invalid value"
  | .superfluousValue => "error: unexpected value for an option that takes none"
  | .unknownCommand => "error: unrecognized command"
  | .missingCommand => "error: a command is required"
  | .missingArgument => "error: a required argument is missing"
  | .repeatedOption => "error: an option is given more than once"
  | .help | .helpForNothing => usage
  | .version => Engine.name ++ " " ++ Server.version

/-- The fault is a request that has been met. -/
def isRequest : UsageFault → Bool
  | .help | .version => true
  | _ => false

end UsageFault

end FederatedSearch.CommandLine
