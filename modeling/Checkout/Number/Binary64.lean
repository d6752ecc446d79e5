import Checkout.Number.Numeral
import Checkout.Number.Rounding

/-!
# Double-precision numbers

A finite non-negative double is a whole multiple of the least positive one, `2 ^ -1074`, and is held
as that multiple. Reading, multiplying and writing are then exact arithmetic on natural numbers
followed by one rounding to 53 binary digits.
-/

namespace Checkout.Number

/-- The number `units / 2 ^ 1074`. A double has at most 53 significant binary digits. -/
structure Binary64 where
  units : Nat
  deriving DecidableEq, Repr

namespace Binary64

/-- How many units make one. -/
def unit : Nat := Nat.pow 2 1074

/-- The least number of units that is too large for a double. -/
def limit : Nat := Nat.pow 2 2098

def zero : Binary64 := ⟨0⟩

def one : Binary64 := ⟨unit⟩

def two : Binary64 := ⟨2 * unit⟩

/-- The double nearest to `num / den`, or nothing when that is too large for one. -/
def ofRatio? (num den : Nat) : Option Binary64 :=
  let units := roundSignificant 53 (num * unit) den
  if units < limit then some ⟨units⟩ else none

/-- The product of a whole number and a double, both the number and the product rounded; nothing
when that is too large. -/
def scale? (n : Nat) (x : Binary64) : Option Binary64 :=
  let units := roundSignificant 53 (roundSignificant 53 n 1 * x.units) 1
  if units < limit then some ⟨units⟩ else none

/-- The whole part. -/
def floor (x : Binary64) : Nat := x.units / unit

/-- The bits of the double: sign, eleven bits of exponent, 52 bits of mantissa. -/
def bits (x : Binary64) : Nat :=
  let shift := x.units.log2 - 52
  shift * Nat.pow 2 52 + x.units / Nat.pow 2 shift

/-- The bits as sixteen hexadecimal digits. -/
def bitsText (x : Binary64) : String := String.ofList (padded 16 16 x.bits)

/-- The number with two decimals, a half going to the even neighbour. -/
def twoDecimals (x : Binary64) : String :=
  let hundredths := roundDiv (x.units * 100) unit
  String.ofList (decimal (hundredths / 100) ++ '.' :: padded 10 2 (hundredths % 100))

end Binary64

/-- Any double, as it can be written. -/
inductive Double where
  | finite (negative : Bool) (magnitude : Binary64)
  | infinite (negative : Bool)
  | nan
  deriving DecidableEq, Repr

namespace Double

/-- An exponent: `e` or `E`, a sign, digits. Nothing at all counts as zero. -/
def exponent? : List Char → Option Int
  | [] => some 0
  | e :: rest =>
    if e = 'e' ∨ e = 'E' then
      let (negative, ds) := match rest with
        | '-' :: r => (true, r)
        | '+' :: r => (false, r)
        | r => (false, r)
      if ds.isEmpty || !ds.all Char.isDigit then none
      else some (if negative then -(ofDigits ds : Int) else ofDigits ds)
    else none

/-- The double nearest to `n * 10 ^ e`. Beyond four hundred digits in either direction nothing but
infinity and zero is left. -/
def ofScientific (negative : Bool) (n : Nat) (e : Int) (digits : Nat) : Double :=
  if n = 0 then .finite negative .zero
  else if e + digits < -400 then .finite negative .zero
  else if e > 400 then .infinite negative
  else
    let ratio := if e < 0 then Binary64.ofRatio? n (Nat.pow 10 (-e).toNat)
      else Binary64.ofRatio? (n * Nat.pow 10 e.toNat) 1
    match ratio with
    | some x => .finite negative x
    | none => .infinite negative

/-- A number without its sign: digits with at most one point among them, then an exponent; or one of
the words for infinity and for no number, in any case. -/
def unsigned? (negative : Bool) (cs : List Char) : Option Double :=
  let word := cs.map Char.toLower
  if word = "inf".toList ∨ word = "infinity".toList then some (.infinite negative)
  else if word = "nan".toList then some .nan
  else
    let whole := cs.takeWhile Char.isDigit
    let rest := cs.dropWhile Char.isDigit
    let (fraction, tail) := match rest with
      | '.' :: r => (r.takeWhile Char.isDigit, r.dropWhile Char.isDigit)
      | r => ([], r)
    let ds := whole ++ fraction
    if ds.isEmpty then none
    else (exponent? tail).map fun e =>
      ofScientific negative (ofDigits ds) (e - fraction.length) ds.length

/-- Reads a double. -/
def ofText? (text : String) : Option Double :=
  match text.toList with
  | '-' :: r => unsigned? true r
  | '+' :: r => unsigned? false r
  | r => unsigned? false r

end Double

end Checkout.Number
