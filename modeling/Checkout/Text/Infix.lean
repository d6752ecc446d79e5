/-!
# Finding a text inside another
-/

namespace Checkout.Text

/-- `needle` stands somewhere in a list of characters. -/
def isInfix (needle : List Char) : List Char → Bool
  | [] => needle.isEmpty
  | c :: rest => needle.isPrefixOf (c :: rest) || isInfix needle rest

/-- `needle` stands somewhere in `text`. -/
def containsText (text needle : String) : Bool := isInfix needle.toList text.toList

end Checkout.Text
