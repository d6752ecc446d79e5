import Checkout.Text.ByteString

/-!
# Path names

A path name is a byte string in which slashes separate names. `parts` is how the system walks it, where a
slash at the end demands a directory; `components` is how two path names are compared, where repeated
slashes and inner dots do not count. `join` appends a relative path name and yields an absolute one
as it is.
-/

namespace Checkout.Pathname

/-- The byte that separates names. -/
def slash : UInt8 := 0x2F

/-- The byte of a dot. -/
def dot : UInt8 := 0x2E

/-- The byte that no path name holds. -/
def nul : UInt8 := 0

/-- The path name begins at the root. -/
def isAbsolute (path : ByteString) : Bool := path.toList.head? == some slash

/-- The bytes can be a path name: it is not empty and does not hold the byte zero. -/
def isPathname (text : ByteString) : Bool := text != "" && !text.toList.contains nul

/-- The path name ends with a slash. -/
def endsWithSlash (path : ByteString) : Bool := path.toList.getLast? == some slash

/-- The path name without the slashes at its end. -/
def bare (path : ByteString) : ByteString :=
  ByteString.ofList (path.toList.reverse.dropWhile (· == slash)).reverse

/-- What stands between the slashes of a list of bytes. -/
def splitSlashes : List UInt8 → List (List UInt8)
  | [] => [[]]
  | b :: rest =>
    if b = slash then [] :: splitSlashes rest
    else
      match splitSlashes rest with
      | first :: more => (b :: first) :: more
      | [] => [[b]]

/-- What stands between slashes and is not empty. -/
def names (path : ByteString) : List ByteString :=
  ((splitSlashes path.toList).filter (!·.isEmpty)).map ByteString.ofList

/-- The names to walk through, with a dot at the end where a slash demands a directory. -/
def parts (path : ByteString) : List ByteString :=
  if endsWithSlash path && !(names path).isEmpty then names path ++ [("." : ByteString)] else names path

/-- A component of a path name. -/
inductive Component where
  | root
  | current
  | parent
  | name (text : ByteString)
  deriving DecidableEq, Repr

/-- The component for a name. -/
def Component.ofName (name : ByteString) : Component :=
  if name = ".." then .parent else .name name

/-- The components of a path name. A dot counts only at the start of a relative path name. -/
def components (path : ByteString) : List Component :=
  let all := names path
  let inner := (all.filter (· ≠ ("." : ByteString))).map Component.ofName
  if isAbsolute path then .root :: inner
  else if all.head? = some ("." : ByteString) then .current :: inner
  else inner

/-- `path` seen from the directory `base`. -/
def join (base path : ByteString) : ByteString :=
  if isAbsolute path then path
  else if base = "" ∨ endsWithSlash base then base ++ path
  else base ++ "/" ++ path

/-- The components of `base` begin those of `path`. -/
def startsWith (path base : ByteString) : Bool := (components base).isPrefixOf (components path)

/-- Drops, from the end of a reversed path name, what does not count as a component: slashes, and
dots that are whole inner names. Fuel: the number of bytes. -/
def dropIdle : Nat → List UInt8 → List UInt8
  | 0, bytes => bytes
  | _ + 1, [] => []
  | fuel + 1, b :: rest =>
    if b = slash then if rest.isEmpty then [slash] else dropIdle fuel rest
    else if b = dot ∧ rest.head? = some slash then dropIdle fuel rest
    else b :: rest

/-- The path name without its last component, if it has one that is no root. -/
def parent? (path : ByteString) : Option ByteString :=
  match components path with
  | [] => none
  | [.root] => none
  | _ =>
    let reversed := dropIdle path.length path.toList.reverse
    let front := reversed.dropWhile (· ≠ slash)
    some (ByteString.ofList (dropIdle path.length front).reverse)

/-- The last name of a path name, if that is an ordinary one. -/
def fileName? (path : ByteString) : Option ByteString :=
  match (components path).getLast? with
  | some (.name n) => some n
  | _ => none

end Checkout.Pathname
