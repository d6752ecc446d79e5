import Checkout.Url.Error
import Checkout.Url.Percent

/-!
# IPv4 addresses

A host whose last part is a number is an IPv4 address or an error. Parts are decimal, octal after a
zero, hexadecimal after `0x`, and the last of fewer than four parts fills the bytes that are left.
-/

namespace Checkout.Ipv4

open Number

/-- The texts between the points of a list of characters. -/
def splitPoints (cs : List Char) : List (List Char) := cs.splitOn '.'

/-- The number that a part means. -/
def part? (cs : List Char) : Option Nat :=
  match cs with
  | [] => none
  | '0' :: 'x' :: ds => digits? 16 ds
  | '0' :: 'X' :: ds => digits? 16 ds
  | '0' :: d :: ds => digits? 8 (d :: ds)
  | ds => digits? 10 ds

/-- The parts of a host, without an empty one at the end. -/
def parts (host : List Char) : List (List Char) :=
  let ps := splitPoints host
  if ps.getLast? = some [] then ps.dropLast else ps

/-- The last part of the host is a number or consists of decimal digits. -/
def endsInNumber (host : List Char) : Bool :=
  match (parts host).getLast? with
  | some last => (!last.isEmpty && last.all Char.isDigit) || (part? last).isSome
  | none => false

/-- The address that a host means. -/
def ofHost (host : List Char) : Except UrlError Nat :=
  let ps := parts host
  if 4 < ps.length then .error .ipv4Address
  else
    match ps.mapM part? with
    | none => .error .ipv4Address
    | some ns =>
      match ns.reverse with
      | [] => .error .ipv4Address
      | last :: front =>
        let room := Nat.pow 256 (4 - front.length)
        if front.any (255 < ·) ∨ room ≤ last then .error .ipv4Address
        else .ok (front.foldr (fun byte n => n * 256 + byte) 0 * room + last)

/-- An address in four decimal parts. -/
def text (n : Nat) : List Char :=
  decimal (n / 0x1000000 % 256) ++ '.' :: decimal (n / 0x10000 % 256) ++
    '.' :: decimal (n / 256 % 256) ++ '.' :: decimal (n % 256)

end Checkout.Ipv4
