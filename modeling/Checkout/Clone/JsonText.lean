import Checkout.Number.Numeral

/-!
# Text in JSON

`jsonString` writes a text as a JSON string. Only quotes, backslashes and control characters are
escaped, the common ones by a letter and the others by their number.
-/

namespace Checkout

open Number

/-- A character inside a JSON string. -/
def jsonChar (c : Char) : List Char :=
  if c = '"' then ['\\', '"']
  else if c = '\\' then ['\\', '\\']
  else if c.toNat = 0x08 then ['\\', 'b']
  else if c.toNat = 0x0C then ['\\', 'f']
  else if c = '\n' then ['\\', 'n']
  else if c = '\r' then ['\\', 'r']
  else if c = '\t' then ['\\', 't']
  else if c.toNat < 0x20 then ['\\', 'u'] ++ padded 16 4 c.toNat
  else [c]

/-- A text as a JSON string. -/
def jsonString (cs : List Char) : List Char := '"' :: cs.flatMap jsonChar ++ ['"']

/-- An object of texts in compact JSON, the fields in order. -/
def jsonObject (fields : List (String × String)) : List Char :=
  '\x7b' :: [','].intercalate
    (fields.map fun (k, v) => jsonString k.toList ++ ':' :: jsonString v.toList) ++ ['\x7d']

end Checkout
