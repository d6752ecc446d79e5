/-!
# Tables of code points

Properties of code points come as tables written in text: a `CodeSet` as the lengths of its
alternating runs outside and inside the set, a `CodeMap` as arithmetic runs that are shifted as a
whole. `CodeSet.contains` counts the bounds up to a code point: inside means an odd count.
-/

namespace Checkout.Text

/-- The decimal numbers of a text, in order; everything else only separates them. -/
def numbers (text : String) : List Nat :=
  let step (state : List Nat × Option Nat) (c : Char) : List Nat × Option Nat :=
    if c.isDigit then
      (state.1, some (state.2.getD 0 * 10 + (c.toNat - '0'.toNat)))
    else
      match state.2 with
      | some n => (n :: state.1, none)
      | none => state
  let (done, last) := text.foldl step ([], none)
  (last.toList ++ done).reverse

/-- Splits a list into consecutive groups of four; an incomplete last group is dropped. -/
def inFours {α : Type} : List α → List (α × α × α × α)
  | a :: b :: c :: d :: rest => (a, b, c, d) :: inFours rest
  | _ => []

/-- Splits a list into consecutive pairs; a single last element is dropped. -/
def inPairs {α : Type} : List α → List (α × α)
  | a :: b :: rest => (a, b) :: inPairs rest
  | _ => []

/-- A set of code points by the bounds of its runs, in increasing order: the first bound enters the
set, the second leaves it, and so on. -/
structure CodeSet where
  bounds : Array Nat

namespace CodeSet

/-- The set whose runs outside and inside have the lengths written in `text`. -/
def ofRuns (text : String) : CodeSet :=
  let step (state : Array Nat × Nat) (length : Nat) : Array Nat × Nat :=
    (state.1.push (state.2 + length), state.2 + length)
  ⟨((numbers text).foldl step (#[], 0)).1⟩

/-- How many of the bounds with an index in `[lo, hi)` are at most `n`, plus `lo`, for bounds in
increasing order. -/
def countFrom (bounds : Array Nat) (n lo hi : Nat) : Nat :=
  if lo < hi then
    let mid := (lo + hi) / 2
    if bounds.getD mid 0 ≤ n then countFrom bounds n (mid + 1) hi else countFrom bounds n lo mid
  else lo
termination_by hi - lo

/-- Membership of a code point. -/
def contains (s : CodeSet) (n : Nat) : Bool :=
  countFrom s.bounds n 0 s.bounds.size % 2 == 1

/-- Membership of a character. -/
def has (s : CodeSet) (c : Char) : Bool := s.contains c.toNat

end CodeSet

/-- An arithmetic run of code points that is shifted as a whole: `first`, `first + step`, … go to
`target`, `target + step`, …. -/
structure CodeRun where
  first : Nat
  count : Nat
  step : Nat
  target : Nat
  deriving Repr

/-- The image of a code point, if it lies on the run. -/
def CodeRun.image? (r : CodeRun) (n : Nat) : Option Nat :=
  if r.first ≤ n ∧ n < r.first + r.count * r.step ∧ (n - r.first) % r.step = 0 then
    some (r.target + (n - r.first))
  else none

/-- A partial map on code points, as a list of runs. -/
structure CodeMap where
  runs : List CodeRun

namespace CodeMap

/-- The map whose runs are written in `text`, four numbers each. -/
def ofText (text : String) : CodeMap :=
  ⟨(inFours (numbers text)).map fun (first, count, step, target) => ⟨first, count, step, target⟩⟩

/-- The image of a code point under the first run that holds it. -/
def image? (m : CodeMap) (n : Nat) : Option Nat := m.runs.findSome? (·.image? n)

/-- The image of a character, itself where the map says nothing. -/
def apply (m : CodeMap) (c : Char) : Char :=
  match m.image? c.toNat with
  | some n => Char.ofNat n
  | none => c

end CodeMap

end Checkout.Text
