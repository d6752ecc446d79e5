/-!
# Rounding

`roundDiv` rounds a quotient of natural numbers to the nearest one, a half to the even neighbour.
`roundSignificant` keeps as many leading binary digits as it is told and rounds the rest the same
way.
-/

namespace Checkout.Number

/-- The natural number nearest to `num / den`; a half goes to the even neighbour. -/
def roundDiv (num den : Nat) : Nat :=
  let q := num / den
  let twice := 2 * (num % den)
  if twice < den then q
  else if den < twice then q + 1
  else if q % 2 = 0 then q
  else q + 1

/-- `num / den` rounded to a number with at most `digits` leading binary digits, the rest zero. -/
def roundSignificant (digits num den : Nat) : Nat :=
  let spare := (num / den).log2 + 1 - digits
  roundDiv num (den * Nat.pow 2 spare) * Nat.pow 2 spare

end Checkout.Number
