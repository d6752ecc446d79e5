import Checkout.Text.Normal
import Checkout.Url.DomainTable
import Checkout.Url.Error
import Checkout.Url.Percent
import Checkout.Url.Punycode

/-!
# Domain names

`toAscii` brings a domain name into its ASCII form. Letters become lower case, characters that only
look different are replaced, some are left out, and the rest is composed. Each label must then follow
the rules of its script: no mark at its start, joiners only where they join, and no mixture of
writing directions. A label that is not ASCII is written in Punycode behind `xn--`.
-/

namespace Checkout.Domain

open Text

/-- ASCII characters that no domain name contains. -/
def isForbidden (n : Nat) : Bool :=
  n ≤ 0x20 || n == 0x7F ||
    (n < 0x80 && ['%', '#', '/', ':', '<', '>', '?', '@', '[', '\\', ']', '^', '|'].contains (Char.ofNat n))

/-- What a character of a domain name is replaced by, if it is allowed. -/
def mapCode (n : Nat) : Option (List Nat) :=
  if n < 0x80 then some [if 0x41 ≤ n ∧ n ≤ 0x5A then n + 32 else n] else replace? n

/-- The code points of a domain name, replaced and composed. -/
def normalize (codes : List Nat) : Option (List Nat) := do
  let mapped ← codes.mapM mapCode
  let all := mapped.flatten
  some (if all.all (· < 0x80) then all else compose all)

/-- A character stands unchanged in a normal label. -/
def isStable (n : Nat) : Bool := mapCode n == some [n]

/-! ## The rules of a label -/

/-- The characters before a joiner, last one first, and those after it allow the joiner. After a mark
that suppresses a vowel every joiner may stand, and a non-joiner also between letters that would
join. -/
def joinerAllowed (joiner : Nat) (before after : List Nat) : Bool :=
  (before.head?.any virama.contains) ||
    (joiner == 0x200C &&
      ((before.dropWhile joinTransparent.contains).head?.any joinsNext.contains) &&
      ((after.dropWhile joinTransparent.contains).head?.any joinsPrevious.contains))

/-- Every joiner in the label may stand where it stands. -/
def joinersAllowed (before : List Nat) : List Nat → Bool
  | [] => true
  | n :: rest =>
    (!(n == 0x200C || n == 0x200D) || joinerAllowed n before rest) && joinersAllowed (n :: before) rest

/-- A code point that makes the writing direction of a domain name matter. -/
def isDirected (n : Nat) : Bool := rightToLeft.contains n || arabicNumber.contains n

/-- The last code point of a label that takes a direction satisfies `p`. -/
def endsIn (p : Nat → Bool) (label : List Nat) : Bool :=
  (label.reverse.dropWhile nonspacing.contains).head?.any p

/-- The label keeps to one writing direction. -/
def oneDirection (label : List Nat) : Bool :=
  match label with
  | [] => true
  | n :: _ =>
    if rightToLeft.contains n then
      label.all (fun m => rightToLeft.contains m || arabicNumber.contains m ||
        europeanNumber.contains m || neutral.contains m || nonspacing.contains m) &&
      endsIn (fun m => rightToLeft.contains m || europeanNumber.contains m ||
        arabicNumber.contains m) label &&
      !(label.any europeanNumber.contains && label.any arabicNumber.contains)
    else if leftToRight.contains n then
      label.all (fun m => leftToRight.contains m || europeanNumber.contains m ||
        neutral.contains m || nonspacing.contains m) &&
      endsIn (fun m => leftToRight.contains m || europeanNumber.contains m) label
    else false

/-- A label that is not ASCII follows the rules. -/
def isValidLabel (label : List Nat) : Bool :=
  label.all isStable && compose label == label && !(label.head?.any mark.contains) &&
    joinersAllowed [] label

/-! ## The ASCII form -/

/-- The label that a normal label means: itself, or what stands in Punycode in it. -/
def decodeLabel (label : List Nat) : Option (List Nat) :=
  match label with
  | 0x78 :: 0x6E :: 0x2D :: 0x2D :: rest => do
    if rest.any (0x80 ≤ ·) then none
    else
      let decoded ← Punycode.decode? (rest.map Char.ofNat)
      if decoded.all (· < 0x80) then none else some decoded
  | label => some label

/-- The ASCII form of a label. -/
def encodeLabel (label : List Nat) : List Char :=
  if label.all (· < 0x80) then label.map Char.ofNat else "xn--".toList ++ Punycode.encode label

/-- The ASCII form of a domain name. -/
def toAscii (name : List Char) : Option (List Char) := do
  let codes ← normalize (name.map Char.toNat)
  if codes.any isForbidden then none
  else
    let labels ← (codes.splitOn 0x2E).mapM decodeLabel
    let valid := labels.all fun l => if l.all (· < 0x80) then l.all isStable else isValidLabel l
    let directed := labels.any (·.any isDirected)
    if valid && (!directed || labels.all oneDirection) then
      some (['.'].intercalate (labels.map encodeLabel))
    else none

/-- The ASCII form of the domain name whose bytes are percent-encoded in a text. -/
def ofEncoded (cs : List Char) : Except UrlError (List Char) :=
  match (decode? (Percent.decode cs)).bind fun s => toAscii s.toList with
  | some name => .ok name
  | none => .error .internationalName

end Checkout.Domain
