/-!
# Punycode

The ASCII form of a label with other characters: its ASCII characters, a hyphen if there are any, and
a number for each other character in increasing order, which says how many places further it goes.
The numbers are written in base 36 with digits whose weight adapts to the numbers so far.
-/

namespace Checkout.Punycode

/-- The bias before the first number. -/
def initialBias : Nat := 72

/-- The digit at which a number ends, at the position `k`. -/
def threshold (k bias : Nat) : Nat :=
  if k ≤ bias + 1 then 1 else if bias + 26 ≤ k then 26 else k - bias

theorem threshold_bounds (k bias : Nat) : 1 ≤ threshold k bias ∧ threshold k bias ≤ 26 := by
  unfold threshold
  split
  · omega
  · split <;> omega

/-- Divides until at most 455 is left; gives the sum of the positions passed and what is left. -/
def shrink (k delta : Nat) : Nat × Nat :=
  if 455 < delta then shrink (k + 36) (delta / 35) else (k, delta)
termination_by delta

/-- The bias after a number, where `count` characters are there and `first` tells the first number. -/
def adapt (delta count : Nat) (first : Bool) : Nat :=
  let delta := if first then delta / 700 else delta / 2
  let (k, rest) := shrink 0 (delta + delta / count)
  k + 36 * rest / (rest + 38)

/-- A digit below 36. -/
def digitChar (d : Nat) : Char := Char.ofNat (if d < 26 then d + 97 else d + 22)

/-- The value of a digit. -/
def digitValue? (c : Char) : Option Nat :=
  if 'a' ≤ c ∧ c ≤ 'z' then some (c.toNat - 97)
  else if 'A' ≤ c ∧ c ≤ 'Z' then some (c.toNat - 65)
  else if '0' ≤ c ∧ c ≤ '9' then some (c.toNat - 22)
  else none

/-- The digits of a number from the position `k` on. -/
def numberDigits (bias k q : Nat) : List Char :=
  let t := threshold k bias
  if q < t then [digitChar q]
  else digitChar (t + (q - t) % (36 - t)) :: numberDigits bias (k + 36) ((q - t) / (36 - t))
termination_by q
decreasing_by
  have h := threshold_bounds k bias
  have : (q - threshold k bias) / (36 - threshold k bias) ≤ q - threshold k bias := Nat.div_le_self _ _
  omega

/-! ## Encoding -/

/-- What has been written: the text, the places passed since the last number, the bias, and how many
characters are done. -/
structure Writing where
  out : List Char
  delta : Nat
  bias : Nat
  done : Nat

/-- Passes one character of the label while the characters with the code `n` are written. -/
def Writing.pass (basic n : Nat) (w : Writing) (c : Nat) : Writing :=
  if c < n then { w with delta := w.delta + 1 }
  else if c = n then
    { out := w.out ++ numberDigits w.bias 36 w.delta
      delta := 0
      bias := adapt w.delta (w.done + 1) (w.done == basic)
      done := w.done + 1 }
  else w

/-- Writes all characters with the code `n`, where those below `next` are done. -/
def Writing.level (label : List Nat) (basic : Nat) (state : Writing × Nat) (n : Nat) : Writing × Nat :=
  let (w, next) := state
  let w := { w with delta := w.delta + (n - next) * (w.done + 1) }
  let w := label.foldl (pass basic n) w
  ({ w with delta := w.delta + 1 }, n + 1)

/-- The ASCII form of a label. -/
def encode (label : List Nat) : List Char :=
  let basic := label.filter (· < 128)
  let others := (label.filter (128 ≤ ·)).mergeSort.eraseDups
  let start := basic.map Char.ofNat ++ (if basic.isEmpty then [] else ['-'])
  let w : Writing := ⟨start, 0, initialBias, basic.length⟩
  (others.foldl (Writing.level label basic.length) (w, 128)).1.out

/-! ## Decoding -/

/-- What has been read: the label, the least code that may come next, the place, the bias, and of the
number that is being read the place before it, the weight of the next digit and its position. -/
structure Reading where
  out : List Nat
  code : Nat
  place : Nat
  bias : Nat
  before : Nat
  weight : Nat
  k : Nat

/-- Reads one digit. -/
def Reading.digit (r : Reading) (c : Char) : Option Reading := do
  let d ← digitValue? c
  let place := r.place + d * r.weight
  let t := threshold r.k r.bias
  if d < t then
    let count := r.out.length + 1
    let code := r.code + place / count
    let at_ := place % count
    if code < 0x110000 ∧ Nat.isValidChar code then
      some
        { out := r.out.take at_ ++ code :: r.out.drop at_
          code := code
          place := at_ + 1
          bias := adapt (place - r.before) count (r.before == 0)
          before := at_ + 1
          weight := 1
          k := 36 }
    else none
  else some { r with place := place, weight := r.weight * (36 - t), k := r.k + 36 }

/-- The label with an ASCII form. -/
def decode? (cs : List Char) : Option (List Nat) := do
  let hasBasic := cs.contains '-'
  let digits := if hasBasic then (cs.reverse.takeWhile (· ≠ '-')).reverse else cs
  let basic := if hasBasic then ((cs.reverse.dropWhile (· ≠ '-')).drop 1).reverse else []
  if basic.any (128 ≤ ·.toNat) then none
  else
    let r ← digits.foldlM Reading.digit ⟨basic.map Char.toNat, 128, 0, initialBias, 0, 1, 36⟩
    if r.k = 36 then some r.out else none

end Checkout.Punycode
