import Checkout.Machine

/-!
# The directory of a checkout

`clean` empties a directory but keeps the directory itself: it removes one entry after another by the path
name of the directory and the name of the entry. Links are removed without being followed. `prepare` creates
the directory.

A run may read and write everything: that a directory cannot be listed, or an entry not be removed, for want
of permission is left out.
-/

namespace Checkout.Workspace

variable {ρ : Type}

/-- Removes what stands in a directory, given its location and its path name: one entry after another, under
the path name that the directory and the name of the entry make together. -/
def removeChildren (files : FileSystem) (l : Location) (path : ByteString) : Run ρ Unit :=
  (files.childNames l).forM fun name =>
    let isDir := (files.get? (l ++ [name])).any Entry.isDir
    Run.alter fun files here => files.removeEntry here isDir (Pathname.join path name)

/-- Empties a directory. One that does not exist is left alone. -/
def clean (path : ByteString) : Run ρ Unit := do
  let m ← get
  match m.files.locate m.workDir path with
  | .error (.os .noEntry) => return ()
  | .error e => throw (.io e)
  | .ok (l, e) =>
    if !e.isDir then
      throw (.validation s!"checkout path exists but is not a directory: {path}")
    write .info .workspace s!"Cleaning existing checkout directory: {path}"
    removeChildren m.files l path

/-- Creates a directory together with those that lead to it. -/
def prepare (path : ByteString) : Run ρ Unit := Run.makeDirs path

end Checkout.Workspace
