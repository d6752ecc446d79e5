import Checkout.Text.Blank
import Checkout.Text.Word

/-!
# Regular expressions

Syntax trees of regular expressions over characters. A `CharSet` says which single characters match,
an `Anchor` which places between two characters match, and `Regex` combines them. Whether a search
prefers long or short matches is no part of the tree, because it does not change whether there is
one.
-/

namespace Checkout

open Text

/-- A set of characters. -/
inductive CharSet where
  | empty
  | range (first last : Nat)
  | table (codes : Array Nat)
  | blank
  | union (a b : CharSet)
  | inter (a b : CharSet)
  | diff (a b : CharSet)
  | symmDiff (a b : CharSet)
  | compl (a : CharSet)
  /-- Every character that differs from a member in case only. -/
  | anyCase (a : CharSet)
  /-- Every ASCII letter that differs from a member in case only, and the members. -/
  | anyAsciiCase (a : CharSet)
  deriving DecidableEq, Repr

namespace CharSet

/-- The set of a single character. -/
def single (c : Char) : CharSet := .range c.toNat c.toNat

/-- The set of a table. -/
def ofCodeSet (s : CodeSet) : CharSet := .table s.bounds

/-- All characters. -/
def all : CharSet := .compl .empty

/-- The union of a list of sets. -/
def unions (sets : List CharSet) : CharSet := sets.foldr .union .empty

/-- The code point of the same ASCII letter in the other case, or the same code point. -/
def otherAsciiCase (n : Nat) : Nat :=
  if 0x41 ≤ n ∧ n ≤ 0x5A then n + 32 else if 0x61 ≤ n ∧ n ≤ 0x7A then n - 32 else n

/-- Membership of a code point. -/
def contains : CharSet → Nat → Bool
  | .empty, _ => false
  | .range first last, n => first ≤ n && n ≤ last
  | .table codes, n => (CodeSet.mk codes).contains n
  | .blank, n => isBlank (Char.ofNat n)
  | .union a b, n => a.contains n || b.contains n
  | .inter a b, n => a.contains n && b.contains n
  | .diff a b, n => a.contains n && !b.contains n
  | .symmDiff a b, n => a.contains n != b.contains n
  | .compl a, n => !a.contains n
  | .anyCase a, n => (caseClass n).any a.contains
  | .anyAsciiCase a, n => a.contains n || a.contains (otherAsciiCase n)

/-- Membership of a character. -/
def has (s : CharSet) (c : Char) : Bool := s.contains c.toNat

end CharSet

/-- The characters on both sides of a place in a text. -/
structure Around where
  before : Option Char
  after : Option Char
  deriving DecidableEq, Repr

/-- A condition on a place in a text. Where words matter, the set says which characters make them. -/
inductive Anchor where
  | textStart
  | textEnd
  | lineStart
  | lineEnd
  | crlfLineStart
  | crlfLineEnd
  | wordBoundary (word : CharSet)
  | notWordBoundary (word : CharSet)
  | wordStart (word : CharSet)
  | wordEnd (word : CharSet)
  | wordStartHalf (word : CharSet)
  | wordEndHalf (word : CharSet)
  deriving DecidableEq, Repr

namespace Anchor

/-- The character, if any, belongs to the set. -/
def within (word : CharSet) (c : Option Char) : Bool := c.any word.has

/-- The place fulfils the condition. -/
def holds (a : Around) : Anchor → Bool
  | .textStart => a.before.isNone
  | .textEnd => a.after.isNone
  | .lineStart => a.before.isNone || a.before == some '\n'
  | .lineEnd => a.after.isNone || a.after == some '\n'
  | .crlfLineStart =>
    a.before.isNone || a.before == some '\n' || (a.before == some '\r' && a.after != some '\n')
  | .crlfLineEnd =>
    a.after.isNone || a.after == some '\r' || (a.after == some '\n' && a.before != some '\r')
  | .wordBoundary w => within w a.before != within w a.after
  | .notWordBoundary w => within w a.before == within w a.after
  | .wordStart w => !within w a.before && within w a.after
  | .wordEnd w => within w a.before && !within w a.after
  | .wordStartHalf w => !within w a.before
  | .wordEndHalf w => !within w a.after

end Anchor

/-- A regular expression. `between low high e` is `e` repeated at least `low` and at most `high`
times, without an upper end where `high` is missing. -/
inductive Regex where
  | empty
  | one (set : CharSet)
  | anchor (a : Anchor)
  | seq (a b : Regex)
  | alt (a b : Regex)
  | between (low : Nat) (high : Option Nat) (a : Regex)
  deriving DecidableEq, Repr

namespace Regex

/-- A sequence of expressions. -/
def seqs : List Regex → Regex
  | [] => .empty
  | [e] => e
  | e :: rest => .seq e (seqs rest)

/-- The alternatives of a list of expressions; the empty list has the empty expression only. -/
def alts : List Regex → Regex
  | [] => .empty
  | [e] => e
  | e :: rest => .alt e (alts rest)

end Regex

end Checkout
