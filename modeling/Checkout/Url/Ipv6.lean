import Checkout.Url.Error
import Checkout.Url.Percent

/-!
# IPv6 addresses

An address has eight pieces of at most four hexadecimal digits between colons. Two colons in a row
stand for as many zero pieces as are missing, and the last two pieces may be written like an IPv4
address. An address is printed with its longest run of at least two zero pieces left out.
-/

namespace Checkout.Ipv6

open Number

/-- One part of an IPv4 address at the end: at most 255, without zeros in front. -/
def byte? (cs : List Char) : Option Nat :=
  match cs with
  | [] => none
  | ['0'] => some 0
  | '0' :: _ => none
  | ds =>
    if ds.all Char.isDigit then
      let n := ofDigits ds
      if n ≤ 255 then some n else none
    else none

/-- Two pieces from four decimal parts. -/
def embedded? (cs : List Char) : Option (List Nat) :=
  match (cs.splitOn '.').mapM byte? with
  | some [a, b, c, d] => some [a * 256 + b, c * 256 + d]
  | _ => none

/-- A piece in hexadecimal. -/
def piece? (cs : List Char) : Option Nat :=
  if cs.isEmpty ∨ 4 < cs.length then none
  else digits? 16 cs

/-- The pieces between single colons; the last one may be an IPv4 address where that is allowed. -/
def pieces? (ipv4AtEnd : Bool) : List (List Char) → Option (List Nat)
  | [] => some []
  | [last] => if ipv4AtEnd && last.contains '.' then embedded? last else (piece? last).map ([·])
  | p :: rest => do
    let n ← piece? p
    let ns ← pieces? ipv4AtEnd rest
    some (n :: ns)

/-- Splits at the first two colons in a row. -/
def splitAtGap : List Char → Option (List Char × List Char)
  | [] => none
  | ':' :: ':' :: rest => some ([], rest)
  | c :: rest => (splitAtGap rest).map fun (a, b) => (c :: a, b)

/-- The pieces of a side of the gap, which may be empty. -/
def side? (ipv4AtEnd : Bool) (cs : List Char) : Option (List Nat) :=
  if cs.isEmpty then some [] else pieces? ipv4AtEnd (cs.splitOn ':')

/-- The eight pieces of an address. -/
def ofText? (cs : List Char) : Option (List Nat) :=
  match splitAtGap cs with
  | none => do
    let ns ← side? true cs
    if ns.length = 8 then some ns else none
  | some (front, back) => do
    let a ← side? false front
    let b ← side? true back
    if a.length + b.length < 8 then
      some (a ++ List.replicate (8 - a.length - b.length) 0 ++ b)
    else none

/-- The length of the run of zeros that a list begins with. -/
def zeroRun : List Nat → Nat
  | 0 :: rest => zeroRun rest + 1
  | _ => 0

/-- The place and the length of the first longest run of zeros, counted from `at_`. -/
def longestRun : List Nat → Nat → Nat × Nat
  | [], at_ => (at_, 0)
  | n :: rest, at_ =>
    let here := zeroRun (n :: rest)
    let (later, length) := longestRun rest (at_ + 1)
    if length ≤ here then (at_, here) else (later, length)

/-- Pieces in hexadecimal between colons. -/
def joinPieces (ns : List Nat) : List Char :=
  [':'].intercalate (ns.map (Nat.toDigits 16))

/-- An address in its shortest form. -/
def text (ns : List Nat) : List Char :=
  let (at_, length) := longestRun ns 0
  if length < 2 then joinPieces ns
  else joinPieces (ns.take at_) ++ [':', ':'] ++ joinPieces (ns.drop (at_ + length))

end Checkout.Ipv6
