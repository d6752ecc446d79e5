import Checkout.Text.ByteString

/-!
# The shell: bytes, words and scripts

A small language of commands. Text in it is bytes: `Bytes` writes each byte as the character with its
number, so that patterns and literals can be compared. A `Word` is made of pieces that are expanded
when a command is carried out; nested scripts, expressions and words are kept as text until then. A
`Script` is what a text means before anything in it is expanded.
-/

namespace Checkout.Shell

/-- Text as bytes, each as the character with its number. -/
abbrev Bytes := List Char

namespace Bytes

def ofOctets (b : List UInt8) : Bytes := b.map fun x => Char.ofNat x.toNat

def toOctets (b : Bytes) : List UInt8 := b.map fun c => UInt8.ofNat c.toNat

def ofString (s : String) : Bytes := ofOctets (Text.encode s)

def ofByteString (s : ByteString) : Bytes := ofOctets s.toList

def toByteString (b : Bytes) : ByteString := .ofList (toOctets b)

/-- The bytes as characters; those that are no part of one give way to the replacement character. -/
def toString (b : Bytes) : String := Text.decodeLossy (toOctets b)

/-- A number in decimal. -/
def ofInt (n : Int) : Bytes := (ToString.toString n).toList

end Bytes

/-- What is made of the value of a parameter. With `orEmpty`, an empty value counts as none. -/
inductive Modifier where
  | value
  | length
  | orElse (orEmpty : Bool) (word : Bytes)
  | assign (orEmpty : Bool) (word : Bytes)
  | orFail (orEmpty : Bool) (word : Bytes)
  | alternative (orEmpty : Bool) (word : Bytes)
  /-- Without what a pattern matches at the start, the longest match or the shortest. -/
  | trimStart (longest : Bool) (pattern : Bytes)
  | trimEnd (longest : Bool) (pattern : Bytes)
  deriving DecidableEq, Repr

/-- A piece of a word. What is expanded in quotes is not split. -/
inductive Piece where
  | plain (text : Bytes)
  | quoted (text : Bytes)
  | parameter (inQuotes : Bool) (name : Bytes) (modifier : Modifier)
  | command (inQuotes : Bool) (script : Bytes)
  | arithmetic (inQuotes : Bool) (expression : Bytes)
  deriving DecidableEq, Repr

/-- A word before it is expanded. -/
abbrev Word := List Piece

/-- Where the output of a command goes, or what its input comes from. -/
inductive RedirectionKind where
  | input
  | output
  | append
  /-- Another descriptor. -/
  | duplicate
  deriving DecidableEq, Repr

/-- A change of one descriptor. -/
structure Redirection where
  descriptor : Nat
  kind : RedirectionKind
  target : Word
  deriving DecidableEq, Repr

/-- What a text means. -/
inductive Script where
  | nothing
  /-- Assignments and a command with its arguments, on a line. -/
  | simple (line : Nat) (assignments : List (Bytes × Word)) (words : List Word)
  | redirected (line : Nat) (body : Script) (redirections : List Redirection)
  | sequence (first second : Script)
  | andThen (first second : Script)
  | orElse (first second : Script)
  | negated (body : Script)
  | pipe (first second : Script)
  | subshell (body : Script)
  | branch (condition yes no : Script)
  /-- Repeats while the condition succeeds, or until it does. -/
  | loop (untilTrue : Bool) (condition body : Script)
  /-- Repeats for each of some words, or for each argument. -/
  | each (name : Bytes) (words : Option (List Word)) (body : Script)
  | choose (word : Word) (clauses : List (List Word × Script))
  | define (name : Bytes) (body : Script)

end Checkout.Shell
