import Checkout.Url.Domain
import Checkout.Url.Ipv4
import Checkout.Url.Ipv6

/-!
# Hosts

The host of a URL is a name or an address. Where the scheme is special a name is a domain name and a
number is an IPv4 address; elsewhere a name is any text without delimiters.
-/

namespace Checkout

/-- A host: a name that is not empty, or an address. -/
inductive Host where
  | name (text : List Char)
  | ipv4 (address : Nat)
  | ipv6 (pieces : List Nat)
  deriving DecidableEq, Repr

namespace Host

/-- The host as it stands in a URL. -/
def text : Host → List Char
  | .name n => n
  | .ipv4 n => Ipv4.text n
  | .ipv6 ns => '[' :: Ipv6.text ns ++ [']']

/-- An IPv6 address in brackets, given what follows the opening one. -/
def ofBracketed (cs : List Char) : Except UrlError Host :=
  match cs.getLast? with
  | some ']' =>
    match Ipv6.ofText? cs.dropLast with
    | some ns => .ok (.ipv6 ns)
    | none => .error .ipv6Address
  | _ => .error .ipv6Address

/-- The host in a URL with a special scheme. -/
def ofSpecial (cs : List Char) : Except UrlError Host :=
  match cs with
  | '[' :: rest => ofBracketed rest
  | cs => do
    let name ← Domain.ofEncoded cs
    if name.isEmpty then .error .emptyHost
    else if Ipv4.endsInNumber name then (Ipv4.ofHost name).map .ipv4
    else .ok (.name name)

/-- A character that cannot stand in a host. -/
def isForbidden (c : Char) : Bool :=
  ['\x00', '\t', '\n', '\r', ' ', '#', '/', ':', '<', '>', '?', '@', '[', '\\', ']', '^', '|'].contains c

/-- The host in a URL with any other scheme; nothing where the text is empty. -/
def ofOpaque (cs : List Char) : Except UrlError (Option Host) :=
  match cs with
  | '[' :: rest => (ofBracketed rest).map some
  | [] => .ok none
  | cs =>
    if cs.any isForbidden then .error .domainCharacter
    else .ok (some (.name (Percent.encode Percent.isControl cs)))

end Host

end Checkout
