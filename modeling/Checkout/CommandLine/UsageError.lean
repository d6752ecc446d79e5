import Checkout.CommandLine.Scope

/-!
# Why a command line is not carried out
-/

namespace Checkout.CommandLine

/-- Why a command line is not carried out. A wish for help or for the version counts too. -/
inductive UsageError where
  | helpRequested (scope : Scope)
  | versionRequested
  /-- The command line says nothing at all. -/
  | nothingGiven
  | missingCommand
  | unknownCommand (text : String)
  | unknownArgument (text : String)
  /-- An option that takes no value has one. -/
  | unneededValue (option : String)
  | repeatedParameter (p : Parameter)
  | missingParameter (p : Parameter)
  | missingValue (p : Parameter)
  | invalidValue (p : Parameter) (text : String)
  /-- A text is no numeral or names a number out of range. -/
  | invalidNumber (p : Parameter) (text : String)
  deriving DecidableEq, Repr

namespace UsageError

/-- A wish is granted; everything else is a failure. -/
def exitCode : UsageError → Nat
  | .helpRequested _ | .versionRequested => 0
  | _ => 2

/-- What is said about the command line. -/
def message : UsageError → String
  | .helpRequested scope => scope.help
  | .versionRequested => s!"{Program.name} {Program.version}"
  | .nothingGiven => Scope.program.help
  | .missingCommand => "error: a subcommand is required"
  | .unknownCommand text => s!"error: unrecognized subcommand '{text}'"
  | .unknownArgument text => s!"error: unexpected argument '{text}'"
  | .unneededValue option => s!"error: no value is allowed for '--{option}'"
  | .repeatedParameter p => s!"error: '--{p.name}' is given more than once"
  | .missingParameter p => s!"error: '--{p.name}' is required"
  | .missingValue p => s!"error: a value is required for '--{p.name}'"
  | .invalidValue p text => s!"error: invalid value '{text}' for '--{p.name}'"
  | .invalidNumber p text => s!"error: invalid number '{text}' for '--{p.name}'"

end UsageError

end Checkout.CommandLine
