import Checkout.Text.ByteString

/-!
# The file system as a value

A `FileSystem` assigns an entry to each location, a location being the list of names that lead to it
from the root without passing through links. The root is always a directory. All operations here
are on locations; path names are resolved in another module.

Names, and the targets of links, are bytes: they need not be text. Permission bits are part of an entry, but
nothing here is refused for them: whoever uses the file system may read and write everything. What is left
out:
* Owners, and the bits that a process leaves off the files that it makes: a new directory has `newDirMode`
  and a new file `newFileMode`.
* Hard links: a content stands at one location.
* Times, sizes, and how much there is room for. What a full disk does is in `Machine.writeFault`.
-/

namespace Checkout

/-- The names that lead to an entry from the root, none of them a link, dot or double dot. -/
abbrev Location := List ByteString

/-- One location comes no later than another: names are compared one by one, and what holds an entry
comes before the entry. -/
def Location.isNotAfter (a b : Location) : Bool := !List.lex b a fun x y => decide (x < y)

/-- What stands at a location. Modes are permission bits. -/
inductive Entry where
  | file (content : List UInt8) (mode : Nat)
  | dir (mode : Nat)
  | link (target : ByteString)
  /-- Something else that can be opened but is no file, such as a device. -/
  | device
  deriving DecidableEq

namespace Entry

def isDir : Entry → Bool
  | .dir _ => true
  | _ => false

def isFile : Entry → Bool
  | .file _ _ => true
  | _ => false

def isLink : Entry → Bool
  | .link _ => true
  | _ => false

/-- The entry with other permission bits; links and devices have none. -/
def withMode (mode : Nat) : Entry → Entry
  | .file content _ => .file content mode
  | .dir _ => .dir mode
  | e => e

end Entry

/-- The entries of a file system, each with its location. -/
structure FileSystem where
  entries : List (Location × Entry)
  deriving DecidableEq

namespace FileSystem

/-- Permission bits of a new directory. -/
def newDirMode : Nat := 0o755

/-- Permission bits of a new file. -/
def newFileMode : Nat := 0o644

/-- Only the root. -/
def empty : FileSystem := ⟨[]⟩

/-- The entry at a location. -/
def get? (fs : FileSystem) (at_ : Location) : Option Entry :=
  if at_ = [] then some (.dir newDirMode) else fs.entries.lookup at_

/-- Puts an entry at a location, in the place of the one that stood there. -/
def put (fs : FileSystem) (at_ : Location) (e : Entry) : FileSystem :=
  ⟨(at_, e) :: fs.entries.filter (·.1 ≠ at_)⟩

/-- `inner` lies below `outer` and is another location. -/
def isBelow (outer inner : Location) : Bool := outer.isPrefixOf inner && outer != inner

/-- Removes everything below a location but not the entry there. -/
def removeBelow (fs : FileSystem) (at_ : Location) : FileSystem :=
  ⟨fs.entries.filter fun (l, _) => !isBelow at_ l⟩

/-- Removes the entry at a location and everything below it. -/
def remove (fs : FileSystem) (at_ : Location) : FileSystem :=
  ⟨fs.entries.filter fun (l, _) => !at_.isPrefixOf l⟩

/-- The entries below a location. -/
def below (fs : FileSystem) (at_ : Location) : List (Location × Entry) :=
  fs.entries.filter fun (l, _) => isBelow at_ l

/-- The names of the entries directly below a location. -/
def childNames (fs : FileSystem) (at_ : Location) : List ByteString :=
  fs.entries.filterMap fun (l, _) =>
    if l.dropLast = at_ then l.getLast? else none

/-- The entries below a location in the order of their locations: names by their bytes, and what holds
an entry before the entry. -/
def listing (fs : FileSystem) (at_ : Location) : List (Location × Entry) :=
  (fs.below at_).mergeSort fun a b => a.1.isNotAfter b.1

/-- Every entry has a location of its own, and what holds it is a directory. -/
def WellFormed (fs : FileSystem) : Prop :=
  (fs.entries.map Prod.fst).Nodup ∧
    ∀ l ∈ fs.entries.map Prod.fst, l ≠ [] ∧ ∃ mode, fs.get? l.dropLast = some (.dir mode)

end FileSystem

end Checkout
