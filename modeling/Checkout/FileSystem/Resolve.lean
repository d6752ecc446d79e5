import Checkout.FileSystem.Basic
import Checkout.FileSystem.Errno
import Checkout.FileSystem.Pathname

/-!
# Resolving path names

`walk` follows names from a directory, one `leg` from link to link. A double dot leads to the directory
that holds the present one, whatever links led there. A link is replaced by the names of its target; at
most forty of them may be replaced on one walk, so the walk ends. `locate` gives what a path name leads to. `canonicalize`
gives the location only; it goes there step by step and asks for the absolute path name of each
location on the way, so that these have to be short enough, but not the path name it is given.
-/

namespace Checkout.FileSystem

/-- How many links one walk may pass through. -/
def maxLinks : Nat := 40

/-- The greatest number of bytes in a name. -/
def maxNameBytes : Nat := 255

/-- The greatest number of bytes in a path name. -/
def maxPathBytes : Nat := 4095

/-- Where a walk ends. -/
inductive Place where
  | entry (at_ : Location) (e : Entry)
  /-- Only the last name is missing; the directory that would hold it is given. -/
  | vacant (dir : Location) (name : ByteString)

/-- Where the walk along a path name starts that is relative to the directory `here`. -/
def startOf (here : Location) (path : ByteString) : Location :=
  if Pathname.isAbsolute path then [] else here

/-- How far a walk gets without passing through a link. -/
inductive Leg where
  /-- It ends. -/
  | stop (place : Place)
  /-- It meets a link in a directory, with names left to follow. -/
  | link (dir : Location) (target : ByteString) (rest : List ByteString)

/-- Walks from the location `here` along `names` up to a link that has to be passed through. `follow`
says whether a link under the last name is passed through too, `admits` which locations may be asked
for. -/
def leg (fs : FileSystem) (follow : Bool) (admits : Location → Bool) (here : Location) :
    List ByteString → Except Errno Leg
  | [] =>
    match fs.get? here with
    | some e => .ok (.stop (.entry here e))
    | none => .error .noEntry
  | name :: rest =>
    if !(fs.get? here).any Entry.isDir then .error .notDirectory
    else if name = "." then leg fs follow admits here rest
    else if name = ".." then leg fs follow admits here.dropLast rest
    else if name.length > maxNameBytes ∨ !admits (here ++ [name]) then .error .nameTooLong
    else
      match fs.get? (here ++ [name]) with
      | none => if rest.isEmpty then .ok (.stop (.vacant here name)) else .error .noEntry
      | some (.link target) =>
        if rest.isEmpty && !follow then .ok (.stop (.entry (here ++ [name]) (.link target)))
        else .ok (.link here target rest)
      | some _ => leg fs follow admits (here ++ [name]) rest

/-- Walks from the location `here` along `names`, with `links` links left to pass through. -/
def walk (fs : FileSystem) (follow : Bool) (admits : Location → Bool) (links : Nat)
    (here : Location) (names : List ByteString) : Except Errno Place :=
  match fs.leg follow admits here names with
  | .error e => .error e
  | .ok (.stop place) => .ok place
  | .ok (.link dir target rest) =>
    match links with
    | 0 => .error .tooManyLinks
    | links + 1 =>
      if !Pathname.isPathname target then .error .noEntry
      else walk fs follow admits links (startOf dir target) (Pathname.parts target ++ rest)

/-- Walks along a path name that is relative to the directory `here`. -/
def resolve (fs : FileSystem) (here : Location) (follow : Bool) (path : ByteString) :
    Except IoError Place :=
  if path.toList.contains Pathname.nul then .error .nulInPath
  else if path = "" then .error (.os .noEntry)
  else if path.length > maxPathBytes then .error (.os .nameTooLong)
  else
    (fs.walk follow (fun _ => true) maxLinks (startOf here path) (Pathname.parts path)).mapError .os

/-- The location and the entry that a path name leads to. -/
def locate (fs : FileSystem) (here : Location) (path : ByteString) : Except IoError (Location × Entry) :=
  match fs.resolve here true path with
  | .ok (.entry l e) => .ok (l, e)
  | .ok (.vacant _ _) => .error (.os .noEntry)
  | .error e => .error e

/-- The path name of a location. -/
def absolutePath (l : Location) : ByteString := "/" ++ ByteString.intercalate "/" l

/-- The path name of a location is short enough to ask for. -/
def hasShortPath (l : Location) : Bool := (absolutePath l).length ≤ maxPathBytes

/-- The location that a path name leads to. -/
def canonicalize (fs : FileSystem) (here : Location) (path : ByteString) : Except IoError Location :=
  if path.toList.contains Pathname.nul then .error .nulInPath
  else if path = "" then .error (.os .noEntry)
  else
    match fs.walk true hasShortPath maxLinks (startOf here path) (Pathname.parts path) with
    | .ok (.entry l _) => .ok l
    | .ok (.vacant _ _) => .error (.os .noEntry)
    | .error e => .error (.os e)

/-- A path name leads to something. -/
def pathExists (fs : FileSystem) (here : Location) (path : ByteString) : Bool :=
  (fs.locate here path).isOk

/-- A path name leads to a file. -/
def isFile (fs : FileSystem) (here : Location) (path : ByteString) : Bool :=
  match fs.locate here path with
  | .ok (_, e) => e.isFile
  | .error _ => false

/-- A path name leads to a directory. -/
def isDir (fs : FileSystem) (here : Location) (path : ByteString) : Bool :=
  match fs.locate here path with
  | .ok (_, e) => e.isDir
  | .error _ => false

end Checkout.FileSystem
