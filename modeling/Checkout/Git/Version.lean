import Checkout.Number.Numeral
import Checkout.Text.Blank
import Checkout.Text.Word
import Checkout.Error

/-!
# Git versions

`Version.ofOutput` finds a version in what `git --version` prints: the first place where the words
`git version` and three runs of digits with points between them stand. Digits of all scripts count for
finding the place, but only ASCII digits make a number, and a number must fit 64 bits.
-/

namespace Checkout

open Number Text

/-- A version of git. -/
structure Version where
  major : Nat
  minor : Nat
  patch : Nat
  deriving DecidableEq, Repr

namespace Version

/-- The oldest version that can narrow a checkout to some directories. -/
def oldest : Version := ⟨2, 25, 0⟩

/-- The version as text. -/
def text (v : Version) : String :=
  String.ofList (decimal v.major ++ '.' :: decimal v.minor ++ '.' :: decimal v.patch)

/-- The version comes before another one. -/
def isBefore (v w : Version) : Bool :=
  v.major < w.major || (v.major == w.major &&
    (v.minor < w.minor || (v.minor == w.minor && v.patch < w.patch)))

/-- The words in front of a version. -/
def prelude : List Char := "git version ".toList

/-- The run of digits at the start of a text and what follows it. There must be a digit. -/
def digitRun? (cs : List Char) : Option (List Char × List Char) :=
  let ds := cs.takeWhile digitSet.has
  if ds.isEmpty then none else some (ds, cs.dropWhile digitSet.has)

/-- What follows a point. -/
def afterPoint? : List Char → Option (List Char)
  | '.' :: rest => some rest
  | _ => none

/-- Three runs of digits with points between them. -/
def digitRuns? (cs : List Char) : Option (List Char × List Char × List Char) := do
  let (a, cs) ← digitRun? cs
  let (b, cs) ← digitRun? (← afterPoint? cs)
  let (c, _) ← digitRun? (← afterPoint? cs)
  some (a, b, c)

/-- The runs of digits at the first place that has them behind the words. -/
def findRuns? : List Char → Option (List Char × List Char × List Char)
  | [] => none
  | c :: rest =>
    let here := if prelude.isPrefixOf (c :: rest) then digitRuns? ((c :: rest).drop prelude.length)
      else none
    here.or (findRuns? rest)

/-- The number that a run of digits means. -/
def number? (ds : List Char) : Option Nat :=
  if ds.all Char.isDigit then
    let n := Number.ofDigits ds
    if n ≤ 0xFFFFFFFFFFFFFFFF then some n else none
  else none

/-- The version in an output, if there is one. -/
def ofOutput? (output : String) : Option Version := do
  let (a, b, c) ← findRuns? output.toList
  some ⟨← number? a, ← number? b, ← number? c⟩

/-- The version in an output. -/
def ofOutput (output : String) : Except Error Version :=
  match ofOutput? output with
  | some v => .ok v
  | none => .error (.unsupportedGitVersion (trim output) oldest.text)

end Version

end Checkout
