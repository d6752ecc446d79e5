import Checkout.Regex.Basic

/-!
# Searching for a regular expression

The search walks through the text once and keeps the list of expressions that would have to match
from the present place. `rests` gives what is left of an expression after one character, and
`matchesHere` says whether an expression matches nothing at a place. No expression is kept twice,
so the time is bounded by the length of the text times the number of different rests.
-/

namespace Checkout.Regex

/-- The expression matches the empty text at this place. -/
def matchesHere (place : Around) : Regex → Bool
  | .empty => true
  | .one _ => false
  | .anchor a => a.holds place
  | .seq a b => matchesHere place a && matchesHere place b
  | .alt a b => matchesHere place a || matchesHere place b
  | .between low _ a => low == 0 || matchesHere place a

/-- `seq` without an empty first half. -/
def andThen (a b : Regex) : Regex :=
  match a with
  | .empty => b
  | a => .seq a b

/-- What may remain to be matched once `c`, the character after this place, has been used. Rounds
that match nothing may be counted as done before `c` is used, so if there are any, no lower end of
the number of rounds is left. -/
def rests (place : Around) (c : Char) : Regex → List Regex
  | .empty => []
  | .one set => if set.has c then [.empty] else []
  | .anchor _ => []
  | .seq a b =>
    (rests place c a).map (andThen · b) ++ (if matchesHere place a then rests place c b else [])
  | .alt a b => rests place c a ++ rests place c b
  | .between low high a =>
    if high = some 0 then []
    else
      let low' := if matchesHere place a then 0 else low - 1
      (rests place c a).map (andThen · (.between low' (high.map (· - 1)) a))

/-- The search at a place with the character `before` on its left, the expressions `begun` that began
earlier, and the rest of the text. -/
def searchFrom (e : Regex) (before : Option Char) (begun : List Regex) : List Char → Bool
  | [] => (e :: begun).any (matchesHere ⟨before, none⟩)
  | c :: rest =>
    let place : Around := ⟨before, some c⟩
    let here := e :: begun
    here.any (matchesHere place) ||
      searchFrom e (some c) (here.flatMap (rests place c)).eraseDups rest

/-- The expression matches some part of the text. -/
def isMatch (e : Regex) (text : String) : Bool := searchFrom e none [] text.toList

end Checkout.Regex
