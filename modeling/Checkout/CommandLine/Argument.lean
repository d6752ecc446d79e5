/-!
# How an argument reads

An argument on its own is an escape, a spelled-out option, an option of one letter, or a plain word.
`isNegativeNumeral` tells the arguments that may be read as numbers in spite of their hyphen.
-/

namespace Checkout.CommandLine

/-- How an argument reads on its own. -/
inductive Argument where
  /-- Two hyphens: what follows is no option. -/
  | escape
  /-- Two hyphens and a name, and perhaps an equals sign with a value. -/
  | long (name : String) (value : Option String)
  /-- One hyphen and letters. -/
  | short (letter : Char) (rest : List Char)
  | plain
  deriving DecidableEq, Repr

namespace Argument

/-- Splits characters at the first equals sign. -/
def splitEquals (cs : List Char) : String × Option String :=
  let name := String.ofList (cs.takeWhile (· ≠ '='))
  match cs.dropWhile (· ≠ '=') with
  | [] => (name, none)
  | _ :: value => (name, some (String.ofList value))

/-- Reads an argument. -/
def ofText (text : String) : Argument :=
  match text.toList with
  | ['-', '-'] => .escape
  | '-' :: '-' :: rest =>
    let (name, value) := splitEquals rest
    .long name value
  | '-' :: letter :: rest => .short letter rest
  | _ => .plain

/-- The value that follows a letter in the same argument, behind an equals sign or at once. -/
def attached? : List Char → Option String
  | [] => none
  | '=' :: value => some (String.ofList value)
  | value => some (String.ofList value)

/-- The characters are digits, with at most one point and at most one exponent. The point comes before
the exponent, neither comes first, and the exponent has digits. -/
def isNumeral (cs : List Char) : Bool :=
  let mantissa := cs.takeWhile (· ≠ 'e')
  let exponent := cs.dropWhile (· ≠ 'e')
  mantissa.all (fun c => c.isDigit || c == '.') && mantissa.count '.' ≤ 1 &&
    mantissa.head? != some '.' && exponent.tail.all Char.isDigit &&
    (exponent.isEmpty || !mantissa.isEmpty && !exponent.tail.isEmpty)

/-- The argument is a minus sign with a numeral. -/
def isNegativeNumeral (text : String) : Bool :=
  match text.toList with
  | '-' :: c :: rest => isNumeral (c :: rest)
  | _ => false

end Argument

end Checkout.CommandLine
