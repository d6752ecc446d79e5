import Checkout.Text.CodeTable

/-!
# Named properties of characters

A property is a set of code points with its names in loose spelling: lower case, without blanks,
hyphens and underscores.
-/

namespace Checkout.Text

/-- A named set of code points: its names, separated by blanks, and its runs. -/
structure Property where
  names : String
  runs : String

namespace Property

/-- The set of the property. -/
def set (p : Property) : CodeSet := CodeSet.ofRuns p.runs

/-- `name`, in loose spelling, is one of the names. -/
def isNamed (p : Property) (name : String) : Bool := (p.names.splitOn " ").contains name

/-- The set of the property called `name` in a table. -/
def find? (table : List Property) (name : String) : Option CodeSet :=
  (table.find? (·.isNamed name)).map set

end Property

/-- A name in loose spelling: a leading "is" is left out, then blanks, hyphens, underscores and all
that is not ASCII, and letters become lower case. The name "isc" stays as it is. -/
def looseName (name : List Char) : String :=
  let loosen (cs : List Char) : List Char :=
    (cs.filter fun c => c.toNat < 0x80 && !(c == ' ' || c == '-' || c == '_')).map Char.toLower
  match name with
  | i :: s :: rest =>
    if i.toLower = 'i' ∧ s.toLower = 's' then
      let kept := loosen rest
      if kept = ['c'] then "isc" else String.ofList kept
    else String.ofList (loosen name)
  | _ => String.ofList (loosen name)

end Checkout.Text
