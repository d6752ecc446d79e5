import Checkout.CommandLine.UsageError
import Checkout.Number.Numeral

/-!
# Reading values

`Parameter.read` reads the text of a value as the kind of its parameter calls for.
-/

namespace Checkout.CommandLine

/-- The number that decimal digits name. -/
def numeral? (cs : List Char) : Option Nat :=
  if cs.isEmpty then none else Number.digits? 10 cs

/-- The integer that digits name, with at most one sign in front. -/
def signedNumeral? (text : String) : Option Int :=
  match text.toList with
  | '+' :: cs => (numeral? cs).map Int.ofNat
  | '-' :: cs => (numeral? cs).map fun n => -Int.ofNat n
  | cs => (numeral? cs).map Int.ofNat

/-- The integers of 32 bits. -/
def isInt32 (n : Int) : Bool := -0x80000000 ≤ n && n < 0x80000000

/-- The natural numbers of 32 bits. -/
def isNat32 (n : Int) : Bool := 0 ≤ n && n < 0x100000000

namespace ValueKind

/-- Reads a text as a value of a kind, for a parameter. -/
def read (p : Parameter) (text : String) : (k : ValueKind) → Except UsageError k.Value
  | .text => .ok text
  | .path => if text = "" then .error (.missingValue p) else .ok (.ofText text)
  | .flag =>
    if text = "true" then .ok true
    else if text = "false" then .ok false
    else .error (.invalidValue p text)
  | .integer =>
    match (signedNumeral? text).filter isInt32 with
    | some n => .ok n
    | none => .error (.invalidNumber p text)
  | .natural =>
    match (signedNumeral? text).filter isNat32 with
    | some n => .ok n.toNat
    | none => .error (.invalidNumber p text)

end ValueKind

/-- Reads the text of a value. -/
def Parameter.read (p : Parameter) (text : String) : Except UsageError p.kind.Value :=
  ValueKind.read p text p.kind

end Checkout.CommandLine
