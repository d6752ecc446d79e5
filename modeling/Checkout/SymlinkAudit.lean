import Checkout.Machine

/-!
# Symbolic links that leave a checkout

`scan` lists the links in a directory that lead out of it, whatever other links they pass through.
Links that lead nowhere are only reported. `audit` fails if there is a link that leaves.

A run may read everything: that a directory of the tree cannot be listed, or a link not be resolved, for want
of permission is left out.
-/

namespace Checkout

/-- A link that leaves the directory, and where it leads. -/
structure SymlinkViolation where
  link : ByteString
  target : Location
  deriving DecidableEq, Repr

/-- What becomes of a link. -/
inductive LinkFate where
  | broken
  | inside
  | outside (target : Location)
  deriving DecidableEq, Repr

namespace SymlinkAudit

variable {ρ : Type}

/-- Where the link with a path name leads, seen from the directory at `root`. -/
def fate (fs : FileSystem) (here root : Location) (path : ByteString) : LinkFate :=
  match fs.canonicalize here path with
  | .error _ => .broken
  | .ok target => if root.isPrefixOf target then .inside else .outside target

/-- Reports a link, and gives it if it leaves. -/
def report (fs : FileSystem) (here root : Location) (path : ByteString) :
    Run ρ (Option SymlinkViolation) := do
  match fate fs here root path with
  | .broken =>
    write .warn .symlink s!"Broken symlink found: {path}"
    return none
  | .inside => return none
  | .outside target =>
    write .error .symlink
      s!"Symlink points outside repository: {path} -> {FileSystem.absolutePath target}"
    return some ⟨path, target⟩

/-- Enters a directory. The system is asked for it by its path name, which may be too long. -/
def enter (path : ByteString) : Run ρ Unit :=
  if FileSystem.maxPathBytes < path.length then
    throw (.io (.other s!"IO error for operation on {path}: {Errno.nameTooLong.message}"))
  else pure ()

/-- The path name of a location below `root`, as seen through the path name of `root`. -/
def pathBelow (root : Location) (path : ByteString) (l : Location) : ByteString :=
  (l.drop root.length).foldl Pathname.join path

/-- Visits an entry below the location `root`: directories are entered, links reported. -/
def visit (fs : FileSystem) (here root : Location) (path : ByteString) (l : Location) :
    Entry → Run ρ (Option SymlinkViolation)
  | .link _ => report fs here root (pathBelow root path l)
  | .dir _ => do
    enter (pathBelow root path l)
    return none
  | _ => return none

/-- The links in a directory that leave it. -/
def scan (path : ByteString) : Run ρ (List SymlinkViolation) := do
  let root ← Run.query fun fs here => fs.canonicalize here path
  enter path
  let m ← get
  (m.files.listing root).filterMapM fun (l, e) => visit m.files m.workDir root path l e

/-- Fails if a link in a directory leaves it. -/
def audit (path : ByteString) : Run ρ Unit := do
  write .info .symlink "Checking for symlinks pointing outside the repository"
  let found ← scan path
  if !found.isEmpty then throw (.symlinkEscape found.length)
  write .info .symlink "Symlink check passed"

end SymlinkAudit

end Checkout
