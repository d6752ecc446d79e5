import Checkout.Process.Basic
import Checkout.Retry.Policy

/-!
# Running an operation under a retry policy

`RetryPolicy.run` repeats an operation until it succeeds, a stop condition holds, or no attempt is
left. It waits between two attempts and never before the first or after the last. The loop is a
recursion on the number of attempts that are left, so it ends.
-/

namespace Checkout

open Text

/-- Why the attempts ended. -/
inductive StopReason where
  | succeeded
  | exitCode (code : Int)
  | outputMatched (pattern : String)
  | attemptsExhausted
  deriving DecidableEq, Repr

/-- The reason as the log shows it. -/
def StopReason.text : StopReason → String
  | .succeeded => "Succeeded"
  | .exitCode code => s!"ExitCode({code})"
  | .outputMatched pattern => s!"OutputMatched({quote pattern})"
  | .attemptsExhausted => "AttemptsExhausted"

/-- How an operation ended: the result of the last attempt, the number of attempts, and the reason to
stop. -/
structure RetryOutcome where
  result : Except Error CommandOutput
  attempts : Nat
  stop : StopReason

namespace RetryOutcome

/-- The last output if it is a success, otherwise the error that names the operation. -/
def output (o : RetryOutcome) (operation : String) : Except Error CommandOutput :=
  match o.result with
  | .error e => .error e
  | .ok out =>
    if out.isSuccess then .ok out
    else .error (.retryExhausted operation o.attempts out.exitCode (trim out.stderr))

end RetryOutcome

/-- An attempt succeeded. -/
def isSuccess : Except Error CommandOutput → Bool
  | .ok out => out.isSuccess
  | .error _ => false

/-- What the stop conditions see of an attempt: one that did not start has no output and no exit
code. -/
def visibleOutput : Except Error CommandOutput → CommandOutput
  | .ok out => out
  | .error _ => ⟨"", "", noExitCode⟩

namespace RetryPolicy

variable {ρ : Type}

/-- The stop condition that an output fulfils: an exit code before a pattern, and the first pattern
that either stream matches. -/
def stopCondition (p : RetryPolicy) (out : CommandOutput) : Option StopReason :=
  if p.stopExitCodes.contains out.exitCode then some (.exitCode out.exitCode)
  else
    (p.stopPatterns.find? fun s => s.isMatch out.stdout || s.isMatch out.stderr).map
      fun s => .outputMatched s.text

/-- What the log says about a failed attempt. -/
def failureText (attempt : Nat) (out : CommandOutput) : String :=
  s!"Attempt {attempt} failed, output:\n[stdout]:\n{out.stdout}\n[stderr]:\n{out.stderr}"

/-- Runs the attempts from the one with the number `attempt` on, when `left` more are permitted after
it and `delay` is the time to wait after it. -/
def attemptFrom (p : RetryPolicy) (operation : Run ρ CommandOutput) (attempt : Nat)
    (delay : Duration) (left : Nat) : StateM (Machine ρ) RetryOutcome := do
  let result ← operation.run
  if isSuccess result then return ⟨result, attempt, .succeeded⟩
  let out := visibleOutput result
  match p.stopCondition out with
  | some stop =>
    record .debug .retry s!"Stopping retries after attempt {attempt}: {stop.text}"
    return ⟨result, attempt, stop⟩
  | none =>
    match left with
    | 0 =>
      record .debug .retry (failureText attempt out)
      record .info .retry s!"Giving up on command after {attempt} attempts"
      return ⟨result, attempt, .attemptsExhausted⟩
    | left + 1 =>
      record .debug .retry (failureText attempt out ++ s!"\nWaiting {delay.text} before next retry")
      pause delay
      attemptFrom p operation (attempt + 1) (p.nextDelay delay) left

/-- Runs an operation under the policy. -/
def run (p : RetryPolicy) (operation : Run ρ CommandOutput) : StateM (Machine ρ) RetryOutcome := do
  if p.enabled then
    record .debug .retry <|
      s!"Running with max attempts {p.maxAttempts.count}, {p.baseDelay.text} base delay, " ++
        s!"{p.factor.twoDecimals} delay factor"
    attemptFrom p operation 1 p.baseDelay (p.maxAttempts.count - 1)
  else
    let result ← operation.run
    return ⟨result, 1, if isSuccess result then .succeeded else .attemptsExhausted⟩

end RetryPolicy

end Checkout
