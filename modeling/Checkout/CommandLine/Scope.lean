import Checkout.CommandLine.Parameter

/-!
# Where options stand

Options before the name of a command are those of the program, options after it those of the
command. `Scope` tells the two apart and says which options there are in each.
-/

namespace Checkout.CommandLine

namespace Program

def name : String := "pipeline-helper"

def version : String := "0.1.0"

end Program

/-- Where an option stands. -/
inductive Scope where
  | program
  | gitClone
  deriving DecidableEq, Repr

/-- What an option means. -/
inductive Meaning where
  | parameter (p : Parameter)
  | help
  | version
  deriving DecidableEq, Repr

namespace Scope

/-- The word that starts a checkout. -/
def gitCloneWord : String := "git-clone"

/-- The word that asks for help on another word. -/
def helpWord : String := "help"

/-- The words that name commands. -/
def commandWords : Scope → List String
  | .program => [gitCloneWord, helpWord]
  | .gitClone => []

/-- What can be set. -/
def parameters : Scope → List Parameter
  | .program => [.logLevel]
  | .gitClone => Parameter.ofCheckout ++ [.logLevel]

/-- The meaning of an option that is spelled out. -/
def long? (scope : Scope) (name : String) : Option Meaning :=
  if name = "help" then some .help
  else if name = "version" ∧ scope = .program then some .version
  else (scope.parameters.find? (·.name = name)).map .parameter

/-- The meaning of an option of one letter. -/
def short? (scope : Scope) (letter : Char) : Option Meaning :=
  if letter = 'h' then some .help
  else if letter = 'V' ∧ scope = .program then some .version
  else (scope.parameters.find? (·.letter? = some letter)).map .parameter

/-- One line on an option. -/
def optionLine (p : Parameter) : String :=
  match p.letter? with
  | some c => s!"  -{c}, --{p.name} <VALUE>\n"
  | none => s!"      --{p.name} <VALUE>\n"

/-- How the scope is used. -/
def usage : Scope → String
  | .program => s!"Usage: {Program.name} [OPTIONS] <COMMAND>\n\nCommands:\n  {gitCloneWord}\n  {helpWord}\n"
  | .gitClone => s!"Usage: {Program.name} {gitCloneWord} [OPTIONS] --url <VALUE>\n"

/-- The help on a scope. -/
def help (scope : Scope) : String :=
  scope.usage ++ "\nOptions:\n" ++ String.join (scope.parameters.map optionLine) ++
    "  -h, --help" ++ (if scope = .program then "\n  -V, --version" else "")

end Scope

end Checkout.CommandLine
