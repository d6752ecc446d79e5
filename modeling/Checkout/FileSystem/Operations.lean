import Checkout.FileSystem.Resolve
import Checkout.Text.Utf8

/-!
# Reading and writing files

Operations on path names relative to a directory. Those that change something give the changed file
system back and leave everything as it was when they fail.
-/

namespace Checkout

/-- The path name under which a directory is made: slashes at the end do not count. One that is too long with
them is too long. -/
def Pathname.withoutSlash (path : ByteString) : ByteString :=
  if (Pathname.names path).isEmpty ∨ path.length > FileSystem.maxPathBytes then path
  else Pathname.bare path

namespace FileSystem

/-- The bytes of the file that a path name leads to. A device has none. -/
def readBytes (fs : FileSystem) (here : Location) (path : ByteString) : Except IoError (List UInt8) :=
  match fs.locate here path with
  | .ok (_, .file content _) => .ok content
  | .ok (_, .dir _) => .error (.os .isDirectory)
  | .ok (_, _) => .ok []
  | .error e => .error e

/-- The text of the file that a path name leads to. -/
def readText (fs : FileSystem) (here : Location) (path : ByteString) : Except IoError String := do
  match Text.decode? (← fs.readBytes here path) with
  | some s => .ok s
  | none => .error .notText

/-- Writes a file: one that is there keeps its permission bits, a missing one is created. A path name
that ends with a slash cannot name a file. -/
def writeBytes (fs : FileSystem) (here : Location) (path : ByteString) (content : List UInt8) :
    Except IoError FileSystem :=
  match fs.resolve here true path with
  | .ok (.entry l (.file _ mode)) =>
    if Pathname.endsWithSlash path then .error (.os .isDirectory)
    else .ok (fs.put l (.file content mode))
  | .ok (.entry _ (.dir _)) => .error (.os .isDirectory)
  | .ok (.entry _ _) => .ok fs
  | .ok (.vacant dir name) => .ok (fs.put (dir ++ [name]) (.file content newFileMode))
  | .error (.os .notDirectory) =>
    if Pathname.endsWithSlash path && fs.isFile here (Pathname.bare path) then
      .error (.os .isDirectory)
    else .error (.os .notDirectory)
  | .error (.os .noEntry) =>
    if Pathname.endsWithSlash path then
      match fs.resolve here true (Pathname.bare path) with
      | .ok (.vacant _ _) => .error (.os .isDirectory)
      | _ => .error (.os .noEntry)
    else .error (.os .noEntry)
  | .error e => .error e

/-- Sets the permission bits of what a path name leads to. -/
def setMode (fs : FileSystem) (here : Location) (path : ByteString) (mode : Nat) :
    Except IoError FileSystem := do
  let (l, e) ← fs.locate here path
  .ok (fs.put l (e.withMode mode))

/-- The names in the directory that a path name leads to. -/
def listDir (fs : FileSystem) (here : Location) (path : ByteString) : Except IoError (List ByteString) :=
  match fs.locate here path with
  | .ok (l, .dir _) => .ok (fs.childNames l)
  | .ok (_, _) => .error (.os .notDirectory)
  | .error e => .error e

/-- Removes what a path name leads to, unless that is a directory. A link is removed and not followed. -/
def removeFile (fs : FileSystem) (here : Location) (path : ByteString) : Except IoError FileSystem :=
  match fs.resolve here false path with
  | .ok (.entry _ (.dir _)) => .error (.os .isDirectory)
  | .ok (.entry l _) => .ok (fs.remove l)
  | .ok (.vacant _ _) => .error (.os .noEntry)
  | .error e => .error e

/-- Removes a directory with everything in it; a link is removed and not followed. The directory is emptied
first. If its path name leads through what was in it, the name leads nowhere any more, and the directory
stays. -/
def removeDirAll (fs : FileSystem) (here : Location) (path : ByteString) : Except IoError FileSystem :=
  match fs.resolve here false path with
  | .ok (.entry l (.dir _)) =>
    let emptied := fs.removeBelow l
    match emptied.resolve here false path with
    | .ok (.entry l _) => .ok (emptied.remove l)
    | _ => .ok emptied
  | .ok (.entry l (.link _)) => .ok (fs.remove l)
  | .ok (.entry _ _) => .error (.os .notDirectory)
  | .ok (.vacant _ _) => .error (.os .noEntry)
  | .error e => .error e

/-- Removes an entry, a directory with everything in it. -/
def removeEntry (fs : FileSystem) (here : Location) (isDir : Bool) (path : ByteString) :
    Except IoError FileSystem :=
  if isDir then fs.removeDirAll here path else fs.removeFile here path

/-- Creates one directory. Nothing may stand there yet, not even a link that leads nowhere. -/
def makeDir (fs : FileSystem) (here : Location) (path : ByteString) : Except IoError FileSystem :=
  match fs.resolve here false (Pathname.withoutSlash path) with
  | .ok (.entry _ _) => .error (.os .exists)
  | .ok (.vacant dir name) => .ok (fs.put (dir ++ [name]) (.dir newDirMode))
  | .error e => .error e

/-- Creates a directory whose parent is there already, unless it is there itself. -/
def makeLastDir (fs : FileSystem) (here : Location) (path : ByteString) : Except IoError FileSystem :=
  match fs.makeDir here path with
  | .ok fs => .ok fs
  | .error e => if fs.isDir here path then .ok fs else .error e

/-- Creates a directory together with the directories that lead to it. The fuel bounds the number of
parents. The file system comes back also after a failure, with the directories made so far. -/
def makeDirsFrom (here : Location) : Nat → FileSystem → ByteString → FileSystem × Option IoError
  | 0, fs, _ => (fs, some (.other "failed to create whole tree"))
  | fuel + 1, fs, path =>
    if path = "" then (fs, none)
    else
      match fs.makeDir here path with
      | .ok fs => (fs, none)
      | .error (.os .noEntry) =>
        match Pathname.parent? path with
        | none => (fs, some (.other "failed to create whole tree"))
        | some parent =>
          match makeDirsFrom here fuel fs parent with
          | (fs, some e) => (fs, some e)
          | (fs, none) =>
            match fs.makeLastDir here path with
            | .ok fs => (fs, none)
            | .error e => (fs, some e)
      | .error e => if fs.isDir here path then (fs, none) else (fs, some e)

/-- Creates a directory together with the directories that lead to it, and says what failed. -/
def makeDirs (fs : FileSystem) (here : Location) (path : ByteString) : FileSystem × Option IoError :=
  makeDirsFrom here (path.length + 1) fs path

end FileSystem

end Checkout
