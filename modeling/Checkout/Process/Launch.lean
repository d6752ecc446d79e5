import Checkout.Process.Basic
import Checkout.Shell.Run

/-!
# Starting programs

`Launch.runner` starts programs for real, as far as the machine knows them: shells, scripts among the
files, and the few programs that every system has. A program is started in its directory; what it
reads is empty, and its output is caught.
-/

namespace Checkout.Launch

open Shell

/-- Why a program cannot be started. -/
inductive StartFailure where
  | os (e : Errno)
  /-- The command holds the character with number zero. -/
  | nul
  deriving DecidableEq, Repr

def StartFailure.message : StartFailure → String
  | .os e => e.message
  | .nul => "nul byte found in provided data"

/-- The greatest number of bytes in one argument or variable. -/
def maxArgumentBytes : Nat := 131071

/-- The bytes hold a zero. -/
def hasNul (text : ByteString) : Bool := text.toList.contains Pathname.nul

/-- All texts of a command. -/
def texts (c : Command) : List ByteString :=
  ((c.program :: c.args).map .ofText) ++ c.dir.toList ++
    c.env.flatMap fun (name, value) => [.ofText name, value]

/-- The variables of a process: those of its parent and, in their place or besides, those of the
command. -/
def environment (inherited given : List (String × ByteString)) : List (String × ByteString) :=
  inherited.filter (fun (name, _) => (given.lookup name).isNone) ++ given

/-- What the program at a path name does, if every system has it. -/
def system? (path : ByteString) (args : List Bytes) : Option (Eval Unit) :=
  if isShell path then some (Shell.Run.shell depthBound args) else (systemProgram? path).map (· args)

/-- What the file at a path name does. -/
def load (fs : FileSystem) (here : Location) (path : ByteString) (args : List Bytes) :
    Except Errno (Eval Unit) :=
  match fs.locate here path with
  | .error (.os e) => .error e
  | .error _ => .error .noEntry
  | .ok (_, .file content mode) =>
    if mode &&& Lookup.executeBits = 0 then .error .accessDenied
    else
      match interpreter? (Bytes.ofOctets content) with
      | none => .error .execFormat
      | some (program, _) =>
        let interpreter := program.toByteString
        if (system? interpreter []).isSome ∨ Lookup.isProgram fs here interpreter then
          .ok (Shell.Run.file depthBound (Bytes.ofByteString path) args)
        else if fs.pathExists here interpreter then .error .accessDenied
        else .error .noEntry
  | .ok (_, _) => .error .accessDenied

/-- Where programs are looked for without a search path. -/
def fallbackSearchPath : ByteString := "/bin:/usr/bin"

/-- What a program does, by its name. One with a slash in its name is a path name. Any other one is
looked for in the search path. -/
def find (fs : FileSystem) (here : Location) (searchPath : Option ByteString) (program : ByteString)
    (args : List Bytes) : Except Errno (Eval Unit) :=
  if program = "" then .error .noEntry
  else if program.toList.contains Pathname.slash then
    loadOrSystem program
  else
    let dirs := (searchPath.getD fallbackSearchPath).toList.splitOn Lookup.colon
    let paths := dirs.map fun dir => Pathname.join (.ofList dir) program
    match paths.find? fun path => Lookup.isProgram fs here path || (system? path []).isSome with
    | some path => loadOrSystem path
    | none =>
      if program.length > FileSystem.maxNameBytes then .error .nameTooLong
      else if paths.any (fs.pathExists here) then .error .accessDenied
      else .error .noEntry
where
  /-- A file comes before the program that every system has in its place. -/
  loadOrSystem (path : ByteString) : Except Errno (Eval Unit) :=
    match if fs.pathExists here path then none else system? path args with
    | some body => .ok body
    | none => load fs here path args

/-- The directory that a process starts in. -/
def startDir (fs : FileSystem) (here : Location) (dir : Option ByteString) : Except Errno Location :=
  match dir with
  | none => .ok here
  | some path =>
    match fs.locate here path with
    | .ok (l, .dir _) => .ok l
    | .ok (_, _) => .error .notDirectory
    | .error (.os e) => .error e
    | .error _ => .error .noEntry

/-- The state in which a process starts: its output goes to the first stream, its errors go to the
second. -/
def initial (fs : FileSystem) (here : Location) (program : String) (env : List (String × ByteString)) :
    State where
  files := fs
  workDir := here
  vars :=
    ("PWD".toList, ⟨Bytes.ofByteString (FileSystem.absolutePath here), true⟩) ::
      (env.filter (·.1 ≠ "PWD")).reverse.map fun (name, value) =>
        (Bytes.ofString name, ⟨Bytes.ofByteString value, true⟩)
  functions := []
  name := Bytes.ofString program
  arguments := []
  status := 0
  input := []
  out := .stream 0
  err := .stream 1
  streams := #[#[], #[]]
  stopsOnFailure := false
  line := 1
  loops := 0
  locals := []

/-- The exit code of a process that ended. -/
def exitCode (s : State) : Except Halt Unit → Int
  | .ok () => s.status
  | .error (.exit n) => n
  | .error (.returned n) => n
  | .error (.breaking _) => s.status
  | .error (.continuing _) => s.status
  | .error (.killed _) => noExitCode
  | .error .outOfSteps => noExitCode

/-- What a process does, and the state it starts in. -/
def prepare (inherited : List (String × ByteString)) (fs : FileSystem) (here : Location) (c : Command) :
    Except StartFailure (Eval Unit × State) := do
  if (texts c).any hasNul then throw .nul
  let env := environment inherited c.env
  let dir ← (startDir fs here c.dir).mapError .os
  let body ← (find fs dir (env.lookup "PATH") c.program (c.args.map Bytes.ofString)).mapError .os
  if (texts c).any fun t => t.length > maxArgumentBytes then throw (.os .argumentsTooLong)
  return (body, initial fs dir c.program env)

/-- Starts programs, with variables that are set before those of a command. -/
def runner {ρ : Type} (inherited : List (String × ByteString)) : Runner ρ := fun c => do
  let m ← get
  match prepare inherited m.files m.workDir c with
  | .error e => throw (.spawn c.program e.message)
  | .ok (body, start) =>
    let (outcome, s) := body.run start
    set { m with files := s.files }
    let text (i : Nat) : String := Bytes.toString (s.streams.getD i #[]).toList
    return ⟨text 0, text 1, exitCode s outcome⟩

end Checkout.Launch
