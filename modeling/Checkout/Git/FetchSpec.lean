import Checkout.Retry.Attempts

/-!
# What a fetch asks for
-/

namespace Checkout

/-- What a fetch asks for, and how often it may be tried. Depth zero means the full history. -/
structure FetchSpec where
  remote : String
  refspec : Option String
  depth : Nat
  submodules : Bool
  maxAttempts : Attempts
  deriving DecidableEq, Repr

namespace FetchSpec

/-- Everything from a remote, tried once. -/
def new (remote : String) : FetchSpec := ⟨remote, none, 0, false, .ofNat 1⟩

/-- Asks for a refspec; an empty one counts as none. -/
def withRefspec (s : FetchSpec) (refspec : Option String) : FetchSpec :=
  { s with refspec := refspec.filter (· ≠ "") }

def withDepth (s : FetchSpec) (depth : Nat) : FetchSpec := { s with depth := depth }

def withSubmodules (s : FetchSpec) (submodules : Bool) : FetchSpec := { s with submodules := submodules }

/-- The number of attempts, at least one. -/
def withMaxAttempts (s : FetchSpec) (n : Nat) : FetchSpec :=
  { s with maxAttempts := .ofNat n }

end FetchSpec

end Checkout
