import Checkout.Process.Basic

/-!
# Scripted processes

A script answers commands without carrying them out. The answers to a subcommand, which is the first
argument, are given in order; when they are used up, the command succeeds without output. Every
command is recorded, and an answer may create files.
-/

namespace Checkout

/-- Something to create. -/
inductive FixtureKind where
  | file (content : List UInt8)
  | dir
  | link (target : ByteString)
  deriving DecidableEq

/-- Something to create at a path name, with permission bits where they matter. -/
structure Fixture where
  path : ByteString
  kind : FixtureKind
  mode : Option Nat
  deriving DecidableEq

namespace Fixture

/-- The files after the fixture has been created below a directory, together with the directories that
lead to it. What cannot be created is left out. -/
def create (base : Location) (fs : FileSystem) (x : Fixture) : FileSystem :=
  let made := match x.kind with
    | .dir => (fs.makeDirs base x.path).1
    | .file content =>
      let fs := (fs.makeDirs base ((Pathname.parent? x.path).getD "")).1
      match fs.writeBytes base x.path content with
      | .ok fs => fs
      | .error _ => fs
    | .link target =>
      let fs := (fs.makeDirs base ((Pathname.parent? x.path).getD "")).1
      match fs.resolve base false x.path with
      | .ok (.vacant dir name) => fs.put (dir ++ [name]) (.link target)
      | _ => fs
  match x.mode with
  | none => made
  | some mode =>
    match made.setMode base x.path mode with
    | .ok fs => fs
    | .error _ => made

/-- The files after a list of fixtures has been created in order. -/
def createAll (base : Location) (fs : FileSystem) (xs : List Fixture) : FileSystem :=
  xs.foldl (create base) fs

end Fixture

/-- The answer to one command: what it creates, and then its output or the program that could not be
started with the reason. -/
structure Answer where
  effects : List Fixture
  outcome : Except (String × String) CommandOutput

/-- A success without output. -/
def Answer.silent : Answer := ⟨[], .ok .silent⟩

/-- The answers that are left for each subcommand, the directory in which they create files, and the
commands so far. -/
structure Script where
  base : Location
  answers : List (String × List Answer)
  calls : List Command

namespace Script

/-- The next answer to a subcommand. -/
def next (s : Script) (subcommand : String) : Answer :=
  match s.answers.lookup subcommand with
  | some (a :: _) => a
  | _ => .silent

/-- The script without the next answer to a subcommand. -/
def advance (s : Script) (subcommand : String) : Script :=
  { s with answers := s.answers.map fun (k, as) => if k = subcommand then (k, as.tail) else (k, as) }

/-- Answers commands from the script. -/
def runner : Runner Script := fun c => do
  let m ← get
  let subcommand := c.args.headD ""
  let answer := m.repo.next subcommand
  let script := m.repo.advance subcommand
  set { m with
    repo := { script with calls := script.calls ++ [c] }
    files := Fixture.createAll script.base m.files answer.effects }
  match answer.outcome with
  | .ok output => return output
  | .error (program, message) => throw (.spawn program message)

/-- The absolute path name of the directory that a process runs in. -/
def seenDir (fs : FileSystem) (here : Location) (dir : ByteString) : ByteString :=
  match fs.canonicalize here dir with
  | .ok l => FileSystem.absolutePath l
  | .error _ => dir

/-- Answers commands from the script and records each with its directory as a process sees it. -/
def processRunner : Runner Script := fun c => do
  let m ← get
  runner { c with dir := c.dir.map (seenDir m.files m.workDir) }

end Script

end Checkout
