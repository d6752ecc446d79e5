import Checkout.Number.Numeral

/-!
# Reading JSON

`Json.ofText?` reads a JSON text: a value with blanks around it, and nothing else. Blanks may stand around every
sign too. Numbers are kept as they are written. Strings hold no control character; any character can be escaped
by its number, one that does not fit into sixteen bits by two halves, and some by a letter. The members of an
object are kept in order.
-/

namespace Checkout

/-- A JSON value. -/
inductive Json where
  | null
  | bool (b : Bool)
  | number (literal : List Char)
  | string (text : String)
  | array (items : List Json)
  | object (members : List (String × Json))

namespace Json

open Number

/-- Drops the characters that may stand around values and signs. -/
def skipBlanks (cs : List Char) : List Char := cs.dropWhile (· ∈ [' ', '\t', '\n', '\r'])

/-! ## Numbers -/

/-- One digit or more, and what follows them. -/
def readDigits (cs : List Char) : Option (List Char × List Char) :=
  match cs.span Char.isDigit with
  | ([], _) => none
  | read => some read

/-- The digits in front of the point. The first of several is not zero. -/
def readWhole : List Char → Option (List Char × List Char)
  | '0' :: rest => some (['0'], rest)
  | cs => readDigits cs

/-- The point and the digits behind it, if there is a point. -/
def readFraction : List Char → Option (List Char × List Char)
  | '.' :: rest => (readDigits rest).map fun (ds, rest) => ('.' :: ds, rest)
  | cs => some ([], cs)

/-- A sign, if it is one of those that may stand here. -/
def readSign (signs : List Char) : List Char → List Char × List Char
  | c :: rest => if c ∈ signs then ([c], rest) else ([], c :: rest)
  | [] => ([], [])

/-- The exponent with its sign, if there is one. -/
def readExponent : List Char → Option (List Char × List Char)
  | c :: rest =>
    if c = 'e' ∨ c = 'E' then
      let (sign, rest) := readSign ['+', '-'] rest
      (readDigits rest).map fun (ds, rest) => (c :: sign ++ ds, rest)
    else some ([], c :: rest)
  | [] => some ([], [])

/-- A number as it is written, and what follows it. -/
def readNumber (cs : List Char) : Option (List Char × List Char) := do
  let (sign, cs) := readSign ['-'] cs
  let (whole, cs) ← readWhole cs
  let (fraction, cs) ← readFraction cs
  let (exponent, cs) ← readExponent cs
  return (sign ++ whole ++ fraction ++ exponent, cs)

/-! ## Strings -/

/-- What a letter behind a backslash stands for. -/
def escaped? : Char → Option Char
  | '"' => some '"'
  | '\\' => some '\\'
  | '/' => some '/'
  | 'b' => some (Char.ofNat 0x08)
  | 'f' => some (Char.ofNat 0x0C)
  | 'n' => some '\n'
  | 'r' => some '\r'
  | 't' => some '\t'
  | _ => none

/-- A number that is the first half of a character. -/
def isFirstHalf (n : Nat) : Bool := 0xD800 ≤ n && n < 0xDC00

/-- A number that is the second half of a character. -/
def isSecondHalf (n : Nat) : Bool := 0xDC00 ≤ n && n < 0xE000

/-- Puts a character in front of what was read. -/
def before (c : Char) (read : Option (List Char × List Char)) : Option (List Char × List Char) :=
  read.map fun (cs, rest) => (c :: cs, rest)

/-- The characters up to the closing quote, and what follows it. A half without the other one is refused. -/
def readChars : List Char → Option (List Char × List Char)
  | '"' :: rest => some ([], rest)
  | '\\' :: 'u' :: a :: b :: c :: d :: rest =>
    match digits? 16 [a, b, c, d] with
    | none => none
    | some n =>
      if isFirstHalf n then
        match rest with
        | '\\' :: 'u' :: a :: b :: c :: d :: rest =>
          match (digits? 16 [a, b, c, d]).filter isSecondHalf with
          | none => none
          | some m => before (Char.ofNat (0x10000 + (n - 0xD800) * 0x400 + (m - 0xDC00))) (readChars rest)
        | _ => none
      else if isSecondHalf n then none
      else before (Char.ofNat n) (readChars rest)
  | '\\' :: e :: rest =>
    match escaped? e with
    | none => none
    | some c => before c (readChars rest)
  | c :: rest => if c = '\\' ∨ c.toNat < 0x20 then none else before c (readChars rest)
  | [] => none

theorem readChars_quote (rest : List Char) : readChars ('"' :: rest) = some ([], rest) := rfl

theorem readChars_plain {c : Char} (hquote : c ≠ '"') (hback : c ≠ '\\') (hplain : 0x20 ≤ c.toNat)
    (rest : List Char) : readChars (c :: rest) = before c (readChars rest) := by
  rw [readChars.eq_def]
  split
  case h_1 heq => exact absurd (List.cons.inj heq).1 hquote
  case h_2 heq => exact absurd (List.cons.inj heq).1 hback
  case h_3 heq => exact absurd (List.cons.inj heq).1 hback
  case h_4 heq =>
    obtain ⟨rfl, rfl⟩ := List.cons.inj heq
    exact if_neg fun h => h.elim hback (Nat.not_lt.mpr hplain)
  case h_5 heq => cases heq

theorem readChars_letter {e c : Char} (h : escaped? e = some c) (rest : List Char) :
    readChars ('\\' :: e :: rest) = before c (readChars rest) := by
  unfold escaped? at h
  split at h <;> cases h <;> rfl

theorem readChars_number {x y z w c : Char} (h : digits? 16 [x, y, z, w] = some c.toNat)
    (hsmall : c.toNat < 0xD800) (rest : List Char) :
    readChars ('\\' :: 'u' :: x :: y :: z :: w :: rest) = before c (readChars rest) := by
  have hfirst : isFirstHalf c.toNat = false := by simp [isFirstHalf]; omega
  have hsecond : isSecondHalf c.toNat = false := by simp [isSecondHalf]; omega
  rw [readChars]
  simp only [h, hfirst, hsecond, Bool.false_eq_true, if_false, Char.ofNat_toNat]

/-! ## Values -/

section Lists

variable {α : Type}

/-- At least one item, with commas between them, up to the closing sign. -/
def readItems (close : Char) (read : List Char → Option (α × List Char)) :
    Nat → List Char → Option (List α × List Char)
  | 0, _ => none
  | steps + 1, cs =>
    match read cs with
    | none => none
    | some (item, rest) =>
      match skipBlanks rest with
      | [] => none
      | c :: rest =>
        if c = close then some ([item], rest)
        else if c = ',' then
          (readItems close read steps (skipBlanks rest)).map fun (items, rest) => (item :: items, rest)
        else none

/-- What stands up to the closing sign. Every item takes a character at least. -/
def readEnclosed (close : Char) (read : List Char → Option (α × List Char)) (cs : List Char) :
    Option (List α × List Char) :=
  match skipBlanks cs with
  | [] => none
  | c :: rest => if c = close then some ([], rest) else readItems close read (c :: rest).length (c :: rest)

end Lists

/-- The name of a member and its value. -/
def readMember (readValue : List Char → Option (Json × List Char)) :
    List Char → Option ((String × Json) × List Char)
  | '"' :: cs =>
    match readChars cs with
    | none => none
    | some (name, rest) =>
      match skipBlanks rest with
      | ':' :: rest => (readValue (skipBlanks rest)).map fun (value, rest) => ((String.ofList name, value), rest)
      | _ => none
  | _ => none

/-- A value in which no more than so many are nested, and what follows it. -/
def readValue : Nat → List Char → Option (Json × List Char)
  | 0, _ => none
  | depth + 1, cs =>
    match cs with
    | '"' :: rest => (readChars rest).map fun (text, rest) => (.string (String.ofList text), rest)
    | '[' :: rest => (readEnclosed ']' (readValue depth) rest).map fun (items, rest) => (.array items, rest)
    | '\x7b' :: rest =>
      (readEnclosed '\x7d' (readMember (readValue depth)) rest).map fun (members, rest) =>
        (.object members, rest)
    | 't' :: 'r' :: 'u' :: 'e' :: rest => some (.bool true, rest)
    | 'f' :: 'a' :: 'l' :: 's' :: 'e' :: rest => some (.bool false, rest)
    | 'n' :: 'u' :: 'l' :: 'l' :: rest => some (.null, rest)
    | cs => (readNumber cs).map fun (literal, rest) => (.number literal, rest)

/-- Reads a JSON text. Every nested value takes a character at least. -/
def ofText? (text : String) : Option Json :=
  match readValue (text.length + 1) (skipBlanks text.toList) with
  | none => none
  | some (value, rest) => if (skipBlanks rest).isEmpty then some value else none

/-- Blanks, a character in two halves, and a number with all its parts. -/
example : ofText? "\x7b \"a\" : [\"\\ud83d\\ude00\", -1.5e3 ] \x7d" =
    some (.object [("a", .array [.string "😀", .number "-1.5e3".toList])]) := by cbv

end Json

end Checkout
