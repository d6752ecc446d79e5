/-!
# Numerals

Natural numbers and their digits, in bases up to sixteen. `digits?` reads digits of a base and
`ofDigits` and `ofOctal` digits that are known to be some; `decimal` and `padded` write numbers.
-/

namespace Checkout.Number

/-- The value of a digit. -/
def digit? (c : Char) : Option Nat :=
  if '0' ≤ c ∧ c ≤ '9' then some (c.toNat - '0'.toNat)
  else if 'a' ≤ c ∧ c ≤ 'f' then some (c.toNat - 'a'.toNat + 10)
  else if 'A' ≤ c ∧ c ≤ 'F' then some (c.toNat - 'A'.toNat + 10)
  else none

/-- The number that digits of a base name; no digits name zero. -/
def digits? (base : Nat) (ds : List Char) : Option Nat :=
  ds.foldlM (fun n c => ((digit? c).filter (· < base)).map (n * base + ·)) 0

/-- The number that octal digits name. -/
def ofOctal (ds : List Char) : Nat :=
  ds.foldl (fun n c => n * 8 + (c.toNat - '0'.toNat)) 0

/-- The number that decimal digits name. -/
def ofDigits (ds : List Char) : Nat :=
  ds.foldl (fun n c => n * 10 + (c.toNat - '0'.toNat)) 0

/-- A number in decimal. -/
def decimal (n : Nat) : List Char := Nat.toDigits 10 n

/-- A number in the given base with at least `width` digits, zeros in front. -/
def padded (base width n : Nat) : List Char :=
  let digits := Nat.toDigits base n
  List.replicate (width - digits.length) '0' ++ digits

end Checkout.Number
