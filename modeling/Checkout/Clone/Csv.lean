import Checkout.Text.Blank

/-!
# Comma-separated parameters
-/

namespace Checkout

open Text

/-- The texts between commas without the blanks around them; empty ones are left out. -/
def csvItems (cs : List Char) : List (List Char) :=
  ((cs.splitOn ',').map trimList).filter (!·.isEmpty)

/-- The items of a comma-separated parameter. -/
def parseCsv (text : String) : List String := (csvItems text.toList).map String.ofList

end Checkout
