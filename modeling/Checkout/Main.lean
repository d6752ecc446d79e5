import Checkout.CommandLine.Program
import Checkout.Process.Launch

/-!
# The command line

`main` reads the variables that stand in for options, carries out the command line on a machine
without files, and prints what the program leaves. There is no git on that machine, so a checkout ends
with a failure; everything up to the first command of git takes place.
-/

namespace Checkout.CommandLine

/-- The variables that stand in for options. -/
def readVariables : List Parameter → IO (List (String × String))
  | [] => return []
  | p :: rest => do
    let more ← readVariables rest
    match ← IO.getEnv p.variableName with
    | some text => return (p.variableName, text) :: more
    | none => return more

end Checkout.CommandLine

open Checkout.CommandLine in
/-- Carries out the command line. -/
def main (args : List String) : IO UInt32 := do
  let vars ← readVariables Parameter.ofCheckout
  let (outcome, _) := (Program.run false (Checkout.Launch.runner []) vars args).run (Checkout.Machine.bare ())
  (← IO.getStdout).putStr outcome.stdout
  (← IO.getStderr).putStr outcome.stderr
  return UInt32.ofNat outcome.exitCode
