import Checkout.Number.Numeral

/-!
# Lengths of time

A duration is a whole number of nanoseconds. It is written in the largest of the units s, ms, µs and
ns that it reaches, with the decimals that it needs.
-/

namespace Checkout

open Number

/-- A length of time in nanoseconds. -/
structure Duration where
  nanos : Nat
  deriving DecidableEq, Repr

namespace Duration

def zero : Duration := ⟨0⟩

/-- A whole number of seconds. -/
def ofSeconds (s : Nat) : Duration := ⟨s * 1000000000⟩

/-- The decimals of `part / 10 ^ places`, without the zeros at their end. -/
def decimals (places part : Nat) : List Char :=
  let digits := ((padded 10 places part).reverse.dropWhile (· == '0')).reverse
  if part = 0 then [] else '.' :: digits

/-- `n / 10 ^ places` with a unit behind it. -/
def inUnit (n places : Nat) (unit : String) : String :=
  let scale := Nat.pow 10 places
  String.ofList (decimal (n / scale) ++ decimals places (n % scale)) ++ unit

/-- A duration as text. -/
def text (d : Duration) : String :=
  if 1000000000 ≤ d.nanos then inUnit d.nanos 9 "s"
  else if 1000000 ≤ d.nanos then inUnit d.nanos 6 "ms"
  else if 1000 ≤ d.nanos then inUnit d.nanos 3 "µs"
  else inUnit d.nanos 0 "ns"

end Duration

end Checkout
