import Checkout.Url.Host

/-!
# URLs

The parts of a URL as they are written, each already encoded. `text` writes them one after another.
-/

namespace Checkout

open Number

/-- How the scheme of a URL decides the syntax of the rest. -/
inductive SchemeKind where
  | file
  | special
  | other
  deriving DecidableEq, Repr

namespace SchemeKind

/-- The kind of a scheme. -/
def ofScheme (scheme : List Char) : SchemeKind :=
  if scheme = "file".toList then .file
  else if ["http", "https", "ws", "wss", "ftp"].contains (String.ofList scheme) then .special
  else .other

/-- A backslash separates like a slash. -/
def isSpecial : SchemeKind → Bool
  | .other => false
  | _ => true

end SchemeKind

/-- The port that need not be written. -/
def defaultPort? (scheme : List Char) : Option Nat :=
  match String.ofList scheme with
  | "http" => some 80
  | "ws" => some 80
  | "https" => some 443
  | "wss" => some 443
  | "ftp" => some 21
  | _ => none

/-- The path of a URL: segments, or a text that has none. -/
inductive UrlPath where
  | segments (names : List (List Char))
  | opaqueText (text : List Char)
  deriving DecidableEq, Repr

/-- The path as it stands in a URL. -/
def UrlPath.text : UrlPath → List Char
  | .segments names => names.flatMap ('/' :: ·)
  | .opaqueText text => text

/-- A URL. A password is never empty, and a default port is left out. -/
structure Url where
  scheme : List Char
  username : List Char
  password : Option (List Char)
  host : Option Host
  port : Option Nat
  path : UrlPath
  query : Option (List Char)
  fragment : Option (List Char)
  deriving DecidableEq, Repr

namespace Url

/-- The name of the user and the password, with the sign that separates them from the host. -/
def userinfoText (u : Url) : List Char :=
  match u.password with
  | some p => u.username ++ ':' :: p ++ ['@']
  | none => if u.username.isEmpty then [] else u.username ++ ['@']

/-- The host with its port. -/
def hostText (u : Url) : List Char :=
  (u.host.map Host.text).getD [] ++ ((u.port.map fun p => ':' :: decimal p).getD [])

/-- What stands between the scheme and the path. -/
def authorityText (u : Url) : List Char :=
  match u.host, u.path with
  | some _, _ => ['/', '/'] ++ u.userinfoText ++ u.hostText
  | none, .segments ([] :: _ :: _) =>
    if SchemeKind.ofScheme u.scheme = .file then ['/', '/'] else ['/', '.']
  | none, .segments _ => if SchemeKind.ofScheme u.scheme = .file then ['/', '/'] else []
  | none, .opaqueText _ => []

/-- The URL as text. -/
def text (u : Url) : List Char :=
  u.scheme ++ ':' :: u.authorityText ++ u.path.text ++
    ((u.query.map ('?' :: ·)).getD []) ++ ((u.fragment.map ('#' :: ·)).getD [])

/-- The URL names a user or holds a password. -/
def hasUserinfo (u : Url) : Bool := !u.username.isEmpty || u.password.isSome

/-- The URL with another user and without a password. There must be a host, and the scheme may not be
the one of files. -/
def withUser? (u : Url) (user : List Char) : Option Url :=
  if u.host.isNone ∨ SchemeKind.ofScheme u.scheme = .file then none
  else some { u with username := Percent.encode Percent.notInUserinfo user, password := none }

end Url

end Checkout
