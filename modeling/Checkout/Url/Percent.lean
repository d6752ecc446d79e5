import Checkout.Number.Numeral
import Checkout.Text.Utf8

/-!
# Percent encoding

Each part of a URL has a set of characters that it cannot hold as they are. `encode` writes the bytes
of these as a percent sign and two hexadecimal digits; `decode` reads such triples back and leaves a
percent sign that begins none.
-/

namespace Checkout.Percent

open Number

/-- Characters that no part of a URL holds: controls and everything beyond ASCII. -/
def isControl (c : Char) : Bool := c.toNat < 0x20 || 0x7E < c.toNat

/-- What a fragment cannot hold. -/
def notInFragment (c : Char) : Bool := isControl c || [' ', '"', '<', '>', '`'].contains c

/-- What a query cannot hold. In a URL with a special scheme a single quote is one more. -/
def notInQuery (special : Bool) (c : Char) : Bool :=
  isControl c || [' ', '"', '#', '<', '>'].contains c || (special && c == '\'')

/-- What a path cannot hold. -/
def notInPath (c : Char) : Bool := notInFragment c || ['#', '?', '\x7b', '\x7d'].contains c

/-- What the name of a user and a password cannot hold. -/
def notInUserinfo (c : Char) : Bool :=
  notInPath c || ['/', ':', ';', '=', '@', '[', '\\', ']', '^', '|'].contains c

/-- The bytes of a character, each as a percent sign and two digits. -/
def encodeChar (c : Char) : List Char :=
  (String.utf8EncodeChar c).flatMap fun b => '%' :: (padded 16 2 b.toNat).map Char.toUpper

/-- A text in which the characters of a set are encoded. -/
def encode (isEncoded : Char → Bool) (cs : List Char) : List Char :=
  cs.flatMap fun c => if isEncoded c then encodeChar c else [c]

/-- The bytes of a text in which each percent sign with two digits stands for one byte. -/
def decode : List Char → List UInt8
  | [] => []
  | '%' :: a :: b :: rest =>
    match digit? a, digit? b with
    | some x, some y => UInt8.ofNat (x * 16 + y) :: decode rest
    | _, _ => 37 :: decode (a :: b :: rest)
  | c :: rest => String.utf8EncodeChar c ++ decode rest

end Checkout.Percent
