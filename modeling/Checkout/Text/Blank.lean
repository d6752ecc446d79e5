/-!
# Blank characters and trimming

A character is blank when Unicode gives it the property White_Space. `trim` removes the blanks at
both ends of a text and nothing else.
-/

namespace Checkout.Text

/-- The characters with the property White_Space. -/
def isBlank (c : Char) : Bool :=
  let n := c.toNat
  (0x09 ≤ n && n ≤ 0x0D) || n == 0x20 || n == 0x85 || n == 0xA0 || n == 0x1680 ||
    (0x2000 ≤ n && n ≤ 0x200A) || n == 0x2028 || n == 0x2029 || n == 0x202F || n == 0x205F ||
    n == 0x3000

/-- Drops the longest run at the end whose members all satisfy `p`. -/
def dropWhileEnd {α : Type} (p : α → Bool) (as : List α) : List α :=
  (as.reverse.dropWhile p).reverse

/-- Drops the longest runs at both ends whose characters all satisfy `p`. -/
def trimWhile (p : Char → Bool) (cs : List Char) : List Char :=
  dropWhileEnd p (cs.dropWhile p)

/-- A list of characters without the blanks at its ends. -/
def trimList (cs : List Char) : List Char := trimWhile isBlank cs

/-- A text without the blanks at its ends. -/
def trim (s : String) : String := String.ofList (trimList s.toList)

end Checkout.Text
