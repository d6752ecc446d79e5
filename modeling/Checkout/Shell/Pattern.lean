import Checkout.Shell.Basic

/-!
# Patterns

A pattern is an expanded word: a star stands for any text, a question mark for any character, and
brackets for one of several characters, unless they stood in quotes.
-/

namespace Checkout.Shell

/-- A character of an expanded word, and whether it stands for nothing but itself. -/
structure Glyph where
  char : Char
  literal : Bool
  deriving DecidableEq, Repr

/-- An expanded word. -/
abbrev Pattern := List Glyph

namespace Pattern

/-- The text of an expanded word. -/
def text (p : Pattern) : Bytes := p.map Glyph.char

/-- The glyph is a character with a meaning of its own. -/
def means (g : Glyph) (c : Char) : Bool := g.char == c && !g.literal

/-- Something in the pattern has a meaning of its own. -/
def isActive (p : Pattern) : Bool := p.any fun g => means g '*' || means g '?' || means g '['

/-- A class of characters by its name. -/
def ofClass (name : String) (c : Char) : Bool :=
  match name with
  | "alpha" => c.isAlpha
  | "digit" => c.isDigit
  | "alnum" => c.isAlphanum
  | "upper" => c.isUpper
  | "lower" => c.isLower
  | "space" => c == ' ' || ('\t' ≤ c && c ≤ '\r')
  | "blank" => c == ' ' || c == '\t'
  | "xdigit" => c.isDigit || ('a' ≤ c && c ≤ 'f') || ('A' ≤ c && c ≤ 'F')
  | "punct" => '!' ≤ c && c ≤ '~' && !c.isAlphanum
  | _ => false

/-- The characters in brackets, up to the closing one, and what follows it. -/
def bracketItems (first : Bool) (chosen : Char → Bool) : Pattern → Option ((Char → Bool) × Pattern)
  | [] => none
  | ⟨'[', _⟩ :: ⟨':', _⟩ :: rest =>
    let name := String.ofList ((rest.takeWhile (·.char ≠ ':')).map Glyph.char)
    match h : rest.dropWhile (·.char ≠ ':') with
    | _ :: ⟨']', _⟩ :: rest' =>
      have : rest'.length < rest.length + 2 := by
        have := (List.dropWhile_sublist (l := rest) (·.char ≠ ':')).length_le
        rw [h] at this
        simp at this
        omega
      bracketItems false (fun c => chosen c || ofClass name c) rest'
    | _ => none
  | ⟨a, _⟩ :: ⟨'-', l⟩ :: ⟨b, m⟩ :: rest =>
    if a = ']' ∧ !first then some (chosen, ⟨'-', l⟩ :: ⟨b, m⟩ :: rest)
    else if b = ']' then
      some (fun c => chosen c || c == a || c == '-', rest)
    else bracketItems false (fun c => chosen c || (a ≤ c && c ≤ b)) rest
  | ⟨a, _⟩ :: rest =>
    if a = ']' ∧ !first then some (chosen, rest)
    else bracketItems false (fun c => chosen c || c == a) rest
termination_by p => p.length

/-- What brackets stand for, after the opening one. -/
def bracket? : Pattern → Option ((Char → Bool) × Pattern)
  | ⟨'!', false⟩ :: rest =>
    (bracketItems true (fun _ => false) rest).map fun (chosen, after) => (fun c => !chosen c, after)
  | p => bracketItems true (fun _ => false) p

/-- A predicate holds of the text or of one of its ends. -/
def anyEnd (p : Bytes → Bool) : Bytes → Bool
  | [] => p []
  | c :: cs => p (c :: cs) || anyEnd p cs

/-- The pattern matches all of a text. Fuel: more than the length of the pattern. -/
def matchesFrom : Nat → Pattern → Bytes → Bool
  | 0, _, _ => false
  | _ + 1, [], s => s.isEmpty
  | fuel + 1, g :: p, s =>
    if means g '*' then anyEnd (matchesFrom fuel p) s
    else
      match s with
      | [] => false
      | c :: cs =>
        if means g '?' then matchesFrom fuel p cs
        else
          match if means g '[' then bracket? p else none with
          | some (chosen, rest) => chosen c && matchesFrom fuel rest cs
          | none => g.char == c && matchesFrom fuel p cs

/-- The pattern matches all of a text. -/
def isMatch (p : Pattern) (s : Bytes) : Bool := matchesFrom (p.length + 1) p s

/-- The text without what the pattern matches at its start. -/
def trimStart (p : Pattern) (longest : Bool) (s : Bytes) : Bytes :=
  let cuts := (List.range (s.length + 1)).filter fun n => isMatch p (s.take n)
  match if longest then cuts.getLast? else cuts.head? with
  | some n => s.drop n
  | none => s

/-- The text without what the pattern matches at its end. -/
def trimEnd (p : Pattern) (longest : Bool) (s : Bytes) : Bytes :=
  let cuts := (List.range (s.length + 1)).filter fun n => isMatch p (s.drop n)
  match if longest then cuts.head? else cuts.getLast? with
  | some n => s.take n
  | none => s

end Pattern

end Checkout.Shell
