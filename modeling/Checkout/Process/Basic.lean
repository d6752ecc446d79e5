import Checkout.Machine

/-!
# Processes

A command is a program with its arguments, the directory to run it in and the variables to set for it.
A runner carries commands out; what a finished process leaves is a `CommandOutput`.
-/

namespace Checkout

/-- What a finished process leaves. A process that a signal ended has the exit code -1. -/
structure CommandOutput where
  stdout : String
  stderr : String
  exitCode : Int
  deriving DecidableEq, Repr

namespace CommandOutput

/-- No output and the exit code zero. -/
def silent : CommandOutput := ⟨"", "", 0⟩

def isSuccess (o : CommandOutput) : Bool := o.exitCode == 0

end CommandOutput

/-- The exit code that stands for none. -/
def noExitCode : Int := -1

/-- A command to carry out. -/
structure Command where
  program : String
  args : List String
  dir : Option ByteString
  env : List (String × ByteString)
  deriving DecidableEq, Repr

/-- A command as the log shows it. -/
def Command.line (c : Command) : String :=
  let start := "[command]: " ++ c.program ++ " " ++ " ".intercalate c.args
  match c.dir with
  | some dir => s!"{start} (in {dir})"
  | none => start

/-- Carries commands out. -/
abbrev Runner (ρ : Type) := Command → Run ρ CommandOutput

/-- The runner that writes every command to the log before it is carried out. -/
def Runner.logged {ρ : Type} (run : Runner ρ) : Runner ρ := fun c => do
  write .debug .executor c.line
  run c

end Checkout
