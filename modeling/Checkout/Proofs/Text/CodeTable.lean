import Checkout.Text.Word

/-!
# Tables are evaluated

A table is the text of its numbers, and evaluating what it says of a character means reading all of them. The
text is taken as its list of characters first, which is what evaluation is quick on.

Results:
* `CodeSet.ofRuns_eq_ofBounds`: a table is the set of the runs that the characters of its text name;
* `has_digitSet_of_lt`: what the table of decimal digits says of ASCII.
-/

namespace Checkout.Text

/-- One more character of a text of numbers: the numbers so far, last one first, and the one that has begun. -/
def numbersStep (state : List Nat × Option Nat) (c : Char) : List Nat × Option Nat :=
  if c.isDigit then (state.1, some (state.2.getD 0 * 10 + (c.toNat - '0'.toNat)))
  else
    match state.2 with
    | some n => (n :: state.1, none)
    | none => state

/-- The numbers of a list of characters. -/
def numbersOf (cs : List Char) : List Nat :=
  let state := cs.foldl numbersStep ([], none)
  (state.2.toList ++ state.1).reverse

theorem numbers_ofList (cs : List Char) : numbers (String.ofList cs) = numbersOf cs := by
  unfold numbers
  simp only [String.foldl_eq_foldl_toList, String.toList_ofList]
  rfl

namespace CodeSet

/-- The set whose runs outside and inside have these lengths. -/
def ofLengths (lengths : List Nat) : CodeSet :=
  let step (state : Array Nat × Nat) (length : Nat) : Array Nat × Nat :=
    (state.1.push (state.2 + length), state.2 + length)
  ⟨(lengths.foldl step (#[], 0)).1⟩

theorem ofRuns_ofList (cs : List Char) : ofRuns (String.ofList cs) = ofLengths (numbersOf cs) := by
  rw [← numbers_ofList]
  rfl

/-- The bounds of runs of these lengths, the first of which begins at `start`. -/
def boundsFrom (start : Nat) : List Nat → List Nat
  | [] => []
  | length :: rest => (start + length) :: boundsFrom (start + length) rest

/-- The set with these bounds. -/
def ofBounds (bounds : List Nat) : CodeSet := ⟨bounds.toArray⟩

theorem foldl_push (lengths : List Nat) (bounds : Array Nat) (start : Nat) :
    (lengths.foldl (fun (state : Array Nat × Nat) length =>
      (state.1.push (state.2 + length), state.2 + length)) (bounds, start)).1 =
        (bounds.toList ++ boundsFrom start lengths).toArray := by
  induction lengths generalizing bounds start with
  | nil => simp [boundsFrom]
  | cons length rest ih => simp [boundsFrom, ih]

/-- **A table is evaluated** in one pass. -/
theorem ofRuns_eq_ofBounds (cs : List Char) :
    ofRuns (String.ofList cs) = ofBounds (boundsFrom 0 (numbersOf cs)) := by
  rw [ofRuns_ofList]
  exact congrArg CodeSet.mk ((foldl_push _ #[] 0).trans (by rw [List.nil_append]))

end CodeSet

/-! ## Decimal digits -/

set_option maxRecDepth 10000 in
/-- The table of digits, as far as ASCII goes. -/
theorem contains_digitSet_of_lt {n : Nat} (h : n < 128) :
    digitSet.contains n = true ↔ 48 ≤ n ∧ n ≤ 57 := by
  obtain ⟨bounds, htable, hvalues⟩ : ∃ bounds, digitSet = CodeSet.ofBounds bounds ∧
      ∀ n < 128, (CodeSet.ofBounds bounds).contains n = decide (48 ≤ n ∧ n ≤ 57) :=
    ⟨_, CodeSet.ofRuns_eq_ofBounds _, by decide +kernel⟩
  rw [htable, hvalues n h, decide_eq_true_iff]

theorem isDigit_iff {c : Char} : c.isDigit = true ↔ 48 ≤ c.toNat ∧ c.toNat ≤ 57 := by
  unfold Char.isDigit
  rw [Bool.and_eq_true, decide_eq_true_iff, decide_eq_true_iff]
  exact Iff.rfl

/-- Of the characters of ASCII the ASCII digits are digits. -/
theorem has_digitSet_of_lt {c : Char} (h : c.toNat < 128) : digitSet.has c = c.isDigit :=
  Bool.eq_iff_iff.mpr ((contains_digitSet_of_lt h).trans isDigit_iff.symm)

theorem has_digitSet_of_isDigit {c : Char} (h : c.isDigit = true) : digitSet.has c = true := by
  have hrange := isDigit_iff.mp h
  rwa [has_digitSet_of_lt (by omega)]

end Checkout.Text
