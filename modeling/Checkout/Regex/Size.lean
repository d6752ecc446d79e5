import Checkout.Regex.Basic

/-!
# Size of a regular expression

An expression is refused when it is nested too deeply or when, with every repetition written out, it
would fill too much memory. `weight` estimates the bytes of the written-out form.
-/

namespace Checkout

/-- The deepest nesting that is accepted. -/
def Regex.maxDepth : Nat := 250

/-- The largest weight that is accepted, in bytes: ten mebibytes. -/
def Regex.maxWeight : Nat := 0xA00000

/-- The bytes of a set of characters, which is stored as ranges of encoded forms. -/
def CharSet.weight : CharSet → Nat
  | .empty => 24
  | .range first last => if first = last ∨ last < 0x80 then 32 else 200
  | .table codes => 40 * codes.size
  | .blank => 400
  | .union a b => a.weight + b.weight
  | .inter a b => a.weight + b.weight
  | .diff a b => a.weight + b.weight
  | .symmDiff a b => a.weight + b.weight
  | .compl a => a.weight + 600
  | .anyCase a => 2 * a.weight
  | .anyAsciiCase a => a.weight

/-- The bytes of an expression whose repetitions are written out. -/
def Regex.weight : Regex → Nat
  | .empty => 24
  | .one set => set.weight
  | .anchor _ => 32
  | .seq a b => a.weight + b.weight
  | .alt a b => a.weight + b.weight + 32
  | .between low high a => (max 1 (high.getD (low + 1))) * (a.weight + 32)

end Checkout
