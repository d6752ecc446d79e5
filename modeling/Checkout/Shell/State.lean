import Checkout.FileSystem.Operations
import Checkout.Shell.Basic

/-!
# The state of a shell

A shell has variables, arguments, a working directory, and places that its output goes to. What it
has written to each place so far is part of the state. A command may also end the shell or a loop:
`Halt`.
-/

namespace Checkout.Shell

/-- Why commands are not carried on. -/
inductive Halt where
  | exit (status : Nat)
  /-- A signal ended the shell. -/
  | killed (signal : Nat)
  | returned (status : Nat)
  | breaking (loops : Nat)
  | continuing (loops : Nat)
  /-- The bound on the number of steps was reached. -/
  | outOfSteps
  deriving DecidableEq, Repr

/-- Where output goes. -/
inductive Sink where
  /-- A stream that somebody reads, by its number. -/
  | stream (i : Nat)
  | file (at_ : Location)
  | nowhere
  deriving DecidableEq, Repr

/-- A variable. Programs that the shell starts see exported ones only. -/
structure Variable where
  text : Bytes
  exported : Bool
  deriving DecidableEq, Repr

/-- The state of a shell. -/
structure State where
  files : FileSystem
  workDir : Location
  vars : List (Bytes × Variable)
  functions : List (Bytes × Script)
  /-- The name of the shell, which its messages begin with. -/
  name : Bytes
  arguments : List Bytes
  status : Nat
  input : Bytes
  out : Sink
  err : Sink
  streams : Array (Array Char)
  /-- A failing command ends the shell. -/
  stopsOnFailure : Bool
  /-- The line of the command that is carried out. -/
  line : Nat
  /-- How many loops the command stands in. -/
  loops : Nat
  /-- The variables of the present function, with what they were before. -/
  locals : List (Bytes × Option Variable)

/-- Something that a shell does. -/
abbrev Eval (α : Type) := ExceptT Halt (StateM State) α

namespace State

/-- The state after bytes have been written to a sink. -/
def write (s : State) (sink : Sink) (text : Bytes) : State :=
  match sink with
  | .stream i =>
    { s with streams := s.streams.modify i (· ++ text.toArray) }
  | .file l =>
    match s.files.get? l with
    | some (.file content mode) =>
      { s with files := s.files.put l (.file (content ++ Bytes.toOctets text) mode) }
    | _ => s
  | .nowhere => s

/-- The text of a variable. -/
def text? (s : State) (name : Bytes) : Option Bytes := (s.vars.lookup name).map Variable.text

/-- The state after a variable has been set. -/
def set (s : State) (name text : Bytes) : State :=
  let exported := (s.vars.lookup name).any Variable.exported
  { s with vars := (name, ⟨text, exported⟩) :: s.vars.filter (·.1 ≠ name) }

/-- The state after a variable has been exported. -/
def «export» (s : State) (name : Bytes) : State :=
  let text := ((s.vars.lookup name).map Variable.text).getD []
  { s with vars := (name, ⟨text, true⟩) :: s.vars.filter (·.1 ≠ name) }

/-- The state without a variable. -/
def unset (s : State) (name : Bytes) : State :=
  { s with vars := s.vars.filter (·.1 ≠ name) }

/-- The state after a function has a variable of its own, which keeps its value until it is set. -/
def makeLocal (s : State) (name : Bytes) : State :=
  { s with locals := (name, s.vars.lookup name) :: s.locals }

/-- The state after the variables of a function are what they were before. -/
def dropLocals (s : State) : State :=
  s.locals.foldl (fun s (name, before) =>
    { s with vars := before.toList.map (name, ·) ++ s.vars.filter (·.1 ≠ name) })
    { s with locals := [] }

/-- The characters that separate fields. -/
def separators (s : State) : Bytes := (s.text? "IFS".toList).getD [' ', '\t', '\n']

/-- The variables that programs see. -/
def environment (s : State) : List (Bytes × Bytes) :=
  (s.vars.filter (·.2.exported)).reverse.map fun (name, v) => (name, v.text)

end State

/-- Writes to the output. -/
def say (text : Bytes) : Eval Unit := modify fun s => s.write s.out text

/-- Writes to the error output. -/
def sayError (text : Bytes) : Eval Unit := modify fun s => s.write s.err text

/-- Writes a message with the name of the shell and the line. -/
def complain (text : Bytes) : Eval Unit := do
  let s ← get
  sayError (s.name ++ ": ".toList ++ Bytes.ofInt s.line ++ ": ".toList ++ text ++ ['\n'])

/-- Sets the status that the last command leaves. -/
def setStatus (n : Nat) : Eval Unit := modify fun s => { s with status := n }

/-- Writes a message and leaves a status. -/
def fail (status : Nat) (text : Bytes) : Eval Unit := do
  complain text
  setStatus status

/-- Writes a message and ends the shell. -/
def abort {α : Type} (status : Nat) (text : Bytes) : Eval α := do
  complain text
  throw (.exit status)

/-- Does something and restores part of the state afterwards, whatever the outcome. -/
def restoring {α : Type} (restore : State → State → State) (body : Eval α) : Eval α :=
  ExceptT.mk fun s =>
    let (outcome, t) := body.run s
    (outcome, restore s t)

/-- Does something in a shell of its own: only files, streams, the status and what is left of the
input are kept. An exit ends that shell alone. -/
def separately (body : Eval Unit) : Eval Unit :=
  ExceptT.mk fun s =>
    let (outcome, t) := body.run s
    let kept := { s with files := t.files, streams := t.streams, input := t.input }
    match outcome with
    | .ok () => (.ok (), { kept with status := t.status })
    | .error (.exit n) => (.ok (), { kept with status := n })
    | .error (.returned n) => (.ok (), { kept with status := n })
    | .error (.breaking _) => (.ok (), { kept with status := t.status })
    | .error (.continuing _) => (.ok (), { kept with status := t.status })
    | .error h => (.error h, kept)

/-- Does something in a shell of its own and catches its output. -/
def capture (body : Eval Unit) : Eval Bytes := do
  let i := (← get).streams.size
  modify fun s => { s with streams := s.streams.push #[] }
  restoring (fun s t => { t with out := s.out }) do
    modify fun s => { s with out := .stream i }
    separately body
  let s ← get
  set { s with streams := s.streams.take i }
  return (s.streams.getD i #[]).toList

/-- Repeats a step as long as it gives `true`, at most `steps` times. -/
def repeatWhile (step : Eval Bool) : Nat → Eval Unit
  | 0 => throw .outOfSteps
  | steps + 1 => do
    if ← step then repeatWhile step steps

/-- One round of a loop, and whether the loop goes on. -/
def loopStep (body : Eval Unit) : Eval Bool :=
  ExceptT.mk fun s =>
    let (outcome, t) := body.run { s with loops := s.loops + 1 }
    let t := { t with loops := s.loops }
    match outcome with
    | .ok () => (.ok true, t)
    | .error (.breaking (n + 2)) => (.error (.breaking (n + 1)), t)
    | .error (.breaking _) => (.ok false, { t with status := 0 })
    | .error (.continuing (n + 2)) => (.error (.continuing (n + 1)), t)
    | .error (.continuing _) => (.ok true, { t with status := 0 })
    | .error h => (.error h, t)

end Checkout.Shell
