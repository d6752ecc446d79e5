import Checkout.Clone.Run
import Checkout.CommandLine.Invocation
import Checkout.Git.Cli

/-!
# The program

`Program.run` carries out a command line. The result of a checkout is a line on the output, the log
and what is said about a failure go to the error stream, and the exit code is 2 for a command line
that cannot be read, 1 for any other failure.
-/

namespace Checkout.CommandLine

/-- What a run of the program leaves. -/
structure Outcome where
  exitCode : Nat
  stdout : String
  stderr : String
  deriving DecidableEq, Repr

namespace Program

variable {ρ : Type}

/-- What is said about a failure, with the failure behind it if there is one. -/
def report (message : String) (cause : Option String) : String :=
  let reason := match cause with
    | some c => "\n\nCaused by:\n    " ++ c
    | none => ""
  "Error: " ++ message ++ reason ++ "\n"

/-- The outcome for a command line that is not carried out. -/
def refuse (e : UsageError) : Outcome :=
  let text := e.message ++ "\n"
  if e.exitCode = 0 then ⟨0, text, ""⟩ else ⟨e.exitCode, "", text⟩

/-- Validates a request before anything is run, and carries it out. -/
def checkout (isInstalled : Bool) (run : Runner ρ) (r : CloneRequest) : Run ρ CloneResult := do
  Run.ofExcept r.validate
  Git.detect isInstalled run
  Clone.run (Git.client run RetryPolicy.default) r

/-- Writes a result to a file where one is wanted. -/
def keep (result : CloneResult) : Option ByteString → Run ρ Unit
  | none => pure ()
  | some path => result.writeTo path

/-- Carries out a checkout and says what goes to the output, and how it ended. The result is printed
before it is written to a file. -/
def print (isInstalled : Bool) (run : Runner ρ) (i : Invocation) :
    StateM (Machine ρ) (String × Except Error Unit) := do
  match ← (checkout isInstalled run i.request).run with
  | .error e => return ("", .error e)
  | .ok result => return (result.json ++ "\n", ← (keep result i.resultFile).run)

/-- Carries out an invocation. -/
def perform (isInstalled : Bool) (run : Runner ρ) (i : Invocation) : StateM (Machine ρ) Outcome := do
  match Verbosity.ofText? i.logLevel with
  | none =>
    let message :=
      s!"Invalid log level '{i.logLevel}': expected error, warn, info, debug or trace"
    return ⟨1, "", report message none⟩
  | some verbosity =>
    let before := (← get).log.length
    let (stdout, ending) ← print isInstalled run i
    let log := String.join (verbosity.lines ((← get).log.drop before))
    match ending with
    | .ok () => return ⟨0, stdout, log⟩
    | .error e => return ⟨1, stdout, log ++ report e.message e.cause?⟩

/-- Carries out a command line, with the variables that stand in for options. `isInstalled` tells
whether git can be found; every command is written to the log before it is carried out. -/
def run (isInstalled : Bool) (runner : Runner ρ) (vars : List (String × String))
    (args : List String) : StateM (Machine ρ) Outcome :=
  match Invocation.read vars args with
  | .error e => return refuse e
  | .ok i => perform isInstalled runner.logged i

end Program

end Checkout.CommandLine
