import Checkout.Duration
import Checkout.Error
import Checkout.FileSystem.Operations
import Checkout.Log

/-!
# The machine that a run changes

Everything that a run reads or changes is in one value: files, log, pauses, and the state `ρ` of what
answers its commands. A `Run` changes the machine and ends with a value or an error; what it changed
before an error stays changed.

Files and directories fail a run as the tree of entries says, and the writing of a file may also break
off, as on a disk that is full. What is left out:
* Permissions: a run may read and write everything, and nothing is refused for permission bits.
* Other failures of the disk: what is there can be read, and where the tree admits it a directory can be
  made, permission bits can be set and an entry can be removed.
* The private directory can be made. If it could not, a run would end with that failure before it reads
  any credentials, with nothing changed but its log.
-/

namespace Checkout

/-- How the writing of a file breaks off. -/
inductive WriteFault where
  /-- The file is not even opened. -/
  | unopened (e : IoError)
  /-- The file holds so many of the bytes, or all of them if there are no more. -/
  | after (written : Nat) (e : IoError)

/-- The state that a run changes. Relative path names start at `workDir`; `scratch` is the location of
a directory that does not exist yet and that a run may create for itself. `writeFault` says under which
path names the writing of a file breaks off, whatever is written. -/
structure Machine (ρ : Type) where
  files : FileSystem
  workDir : Location
  scratch : Location
  writeFault : ByteString → Option WriteFault
  log : List Record
  pauses : List Duration
  repo : ρ

/-- A machine with nothing but a working directory. -/
def Machine.bare {ρ : Type} (repo : ρ) : Machine ρ where
  files := FileSystem.empty.put ["work"] (.dir FileSystem.newDirMode)
  workDir := ["work"]
  scratch := ["scratch"]
  writeFault := fun _ => none
  log := []
  pauses := []
  repo := repo

/-- A computation that changes the machine and may fail. -/
abbrev Run (ρ α : Type) := ExceptT Error (StateM (Machine ρ)) α

variable {ρ : Type}

/-- Appends a record to the log. -/
def record (level : Level) (part : Part) (message : String) : StateM (Machine ρ) Unit :=
  modify fun m => { m with log := m.log ++ [⟨level, part, message⟩] }

/-- Appends a record to the log of a run. -/
def write (level : Level) (part : Part) (message : String) : Run ρ Unit :=
  ExceptT.lift (record level part message)

/-- Waits for a while. -/
def pause (d : Duration) : StateM (Machine ρ) Unit :=
  modify fun m => { m with pauses := m.pauses ++ [d] }

namespace Run

/-- Ends with the outcome of a computation that changes nothing. -/
def ofExcept {α : Type} (e : Except Error α) : Run ρ α := ExceptT.mk (pure e)

/-- Reads the files without changing them. -/
def query {α : Type} (f : FileSystem → Location → Except IoError α) : Run ρ α := do
  let m ← get
  ofExcept ((f m.files m.workDir).mapError .io)

/-- Asks the files a question that cannot fail. -/
def ask {α : Type} (f : FileSystem → Location → α) : Run ρ α := do
  let m ← get
  return f m.files m.workDir

/-- Changes the files; after a failure they are as before. -/
def alter (f : FileSystem → Location → Except IoError FileSystem) : Run ρ Unit := do
  let m ← get
  let files ← ofExcept ((f m.files m.workDir).mapError .io)
  set { m with files := files }

/-- Writes a file, as far as it can be written. -/
def writeFile (path : ByteString) (content : List UInt8) : Run ρ Unit := do
  match (← get).writeFault path with
  | none => alter fun fs here => fs.writeBytes here path content
  | some (.unopened e) => throw (.io e)
  | some (.after written e) =>
    alter fun fs here => fs.writeBytes here path (content.take written)
    throw (.io e)

/-- Creates a directory together with those that lead to it. -/
def makeDirs (path : ByteString) : Run ρ Unit := do
  let m ← get
  let (files, failure) := m.files.makeDirs m.workDir path
  set { m with files := files }
  match failure with
  | some e => throw (.io e)
  | none => pure ()

/-- Permission bits of a directory that only its owner may use. -/
def privateDirMode : Nat := 0o700

/-- Runs a computation with a private directory of its own, which is removed afterwards whatever the
outcome. That the directory cannot be made is left out. -/
def withPrivateDir {α : Type} (body : ByteString → Run ρ α) : Run ρ α :=
  ExceptT.mk do
    modify fun m => { m with files := m.files.put m.scratch (.dir privateDirMode) }
    let m ← get
    let outcome ← (body (FileSystem.absolutePath m.scratch)).run
    modify fun n => { n with files := n.files.remove m.scratch }
    return outcome

end Run

end Checkout
