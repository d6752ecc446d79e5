import Checkout.Duration
import Checkout.Error
import Checkout.Number.Binary64
import Checkout.Regex.Matching
import Checkout.Regex.Reader
import Checkout.Retry.Attempts
import Checkout.Text.Infix
import Checkout.Text.LowerCase
import Checkout.Text.Quoted

/-!
# Retry policies

A policy says how often an operation may run, how long to wait in between, and which outputs end the
attempts early. Every policy permits at least one attempt. The delay grows by a factor after each
failure; `nextDelay` rounds it down to whole nanoseconds and keeps it below the ceiling, if there is
one.
-/

namespace Checkout

open Number Text

/-- A condition on the output of an attempt that ends retrying. -/
inductive StopPattern where
  /-- Contains a text that is in lower case already, whatever the case of the output. -/
  | contains (needle : String)
  /-- Matches a regular expression, kept with its notation. -/
  | pattern (source : String) (regex : Regex)
  deriving DecidableEq

namespace StopPattern

/-- The output fulfils the condition. -/
def isMatch (output : String) : StopPattern → Bool
  | .contains needle => containsText (toLower output) needle
  | .pattern _ regex => regex.isMatch output

/-- The condition as text. -/
def text : StopPattern → String
  | .contains needle => "contains " ++ quote needle
  | .pattern source _ => "matches /" ++ source ++ "/"

end StopPattern

/-- How an operation is retried. -/
structure RetryPolicy where
  baseDelay : Duration
  factor : Binary64
  maxAttempts : Attempts
  maxDelay : Option Duration
  stopExitCodes : List Int
  stopPatterns : List StopPattern
  enabled : Bool
  deriving DecidableEq

namespace RetryPolicy

/-- One second that doubles with each failure, three attempts, no ceiling. -/
def default : RetryPolicy where
  baseDelay := .ofSeconds 1
  factor := .two
  maxAttempts := .ofNat 3
  maxDelay := none
  stopExitCodes := []
  stopPatterns := []
  enabled := true

/-- Ten attempts with at most four minutes in between, for registries that limit the rate of
requests. -/
def imageRegistry : RetryPolicy :=
  { default with maxAttempts := .ofNat 10, maxDelay := some (.ofSeconds 240) }

/-! ## Building -/

/-- A single attempt, whatever else the policy says. -/
def disabled (p : RetryPolicy) : RetryPolicy := { p with enabled := false }

/-- The delay after the first failure. -/
def withBaseDelay (p : RetryPolicy) (d : Duration) : RetryPolicy := { p with baseDelay := d }

/-- The factor of a policy: only finite positive numbers count, all others mean zero. -/
def usableFactor : Double → Binary64
  | .finite false x => x
  | _ => .zero

/-- The factor by which the delay grows with each failure. -/
def withDelayFactor (p : RetryPolicy) (x : Double) : RetryPolicy := { p with factor := usableFactor x }

/-- The same delay after every failure. -/
def withConstantDelay (p : RetryPolicy) (d : Duration) : RetryPolicy :=
  { p with baseDelay := d, factor := .one }

/-- The number of attempts, at least one. -/
def withMaxAttempts (p : RetryPolicy) (n : Nat) : RetryPolicy :=
  { p with maxAttempts := .ofNat n }

/-- The ceiling of the delay. -/
def withMaxDelay (p : RetryPolicy) (d : Duration) : RetryPolicy := { p with maxDelay := some d }

/-- Exit codes that end the attempts. -/
def stopOnExitCodes (p : RetryPolicy) (codes : List Int) : RetryPolicy :=
  { p with stopExitCodes := p.stopExitCodes ++ codes }

/-- A condition on the output that ends the attempts. -/
def stopOn (p : RetryPolicy) (s : StopPattern) : RetryPolicy :=
  { p with stopPatterns := p.stopPatterns ++ [s] }

/-- Ends the attempts when the output matches a regular expression. -/
def stopIfOutputMatches (p : RetryPolicy) (source : String) : Except Error RetryPolicy :=
  match Regex.ofText? source with
  | some r => .ok (p.stopOn (.pattern source r))
  | none => .error .regex

/-- Ends the attempts when the output contains a text in any case. -/
def stopIfOutputContains (p : RetryPolicy) (text : String) : RetryPolicy :=
  p.stopOn (.contains (toLower text))

/-! ## Delays -/

/-- The longest delay that a product can give: the largest number of 64 bits. -/
def longestDelay : Duration := ⟨0xFFFFFFFFFFFFFFFF⟩

/-- The product of a delay and a factor in whole nanoseconds, at most `longestDelay`. -/
def grow (factor : Binary64) (d : Duration) : Duration :=
  match factor.scale? d.nanos with
  | some x => if longestDelay.nanos < x.floor then longestDelay else ⟨x.floor⟩
  | none => longestDelay

/-- The delay that follows another one. -/
def nextDelay (p : RetryPolicy) (d : Duration) : Duration :=
  let next := grow p.factor d
  match p.maxDelay with
  | some ceiling => if ceiling.nanos < next.nanos then ceiling else next
  | none => next

end RetryPolicy

end Checkout
