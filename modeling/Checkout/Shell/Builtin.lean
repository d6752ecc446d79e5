import Checkout.Shell.Condition
import Checkout.Shell.Format
import Checkout.Shell.State

/-!
# Commands that need no other program

`builtin?` finds a command of the shell by its name and `utility?` one of the few programs that every
system has. Neither kind runs scripts.
-/

namespace Checkout.Shell

/-- The number by which a shell knows itself. -/
def processNumber : Nat := 4242

/-- Signals that end a process, by name. -/
def signals : List (String × Nat) :=
  [("HUP", 1), ("INT", 2), ("QUIT", 3), ("ILL", 4), ("TRAP", 5), ("ABRT", 6), ("BUS", 7), ("FPE", 8),
    ("KILL", 9), ("USR1", 10), ("SEGV", 11), ("USR2", 12), ("PIPE", 13), ("ALRM", 14), ("TERM", 15)]

/-- A natural number in decimal digits. -/
def digits? (t : Bytes) : Option Nat := if t.isEmpty then none else Number.digits? 10 t

/-- The number of a signal that is named or numbered. -/
def signal? (t : Bytes) : Option Nat := (digits? t).or (signals.lookup (Bytes.toString t))

/-- Sends a signal to the shell itself; there are no other processes. -/
def kill (args : List Bytes) : Eval Unit := do
  let (signal, targets) := match args with
    | ['-', 's'] :: name :: rest => (signal? name, rest)
    | ('-' :: name) :: rest => (signal? name, rest)
    | rest => (some 15, rest)
  match signal, targets with
  | some n, t :: _ =>
    if digits? t = some processNumber then
      if n ≠ 0 ∧ signals.any (·.2 == n) then throw (.killed n) else setStatus 0
    else fail 1 "kill: No such process".toList
  | _, _ => fail 2 "kill: Illegal option".toList

/-- The status that an argument asks for, reduced to a byte. -/
def statusOf (name : String) (args : List Bytes) : Eval Nat := do
  match args with
  | [] => return (← get).status
  | t :: _ =>
    match digits? t with
    | some n => return n % 256
    | none => abort 2 (name.toList ++ ": Illegal number: ".toList ++ t)

/-- Leaves as many loops as an argument says, but no more than there are. Outside of loops nothing
happens. -/
def leaveLoops (halt : Nat → Halt) (args : List Bytes) : Eval Unit := do
  let loops := (← get).loops
  if loops = 0 then setStatus 0
  else throw (halt (min loops (max 1 ((args.head?.bind digits?).getD 1))))

/-- The absolute path name of the directory that the shell is in. -/
def currentDir : Eval Bytes := do
  return Bytes.ofByteString (FileSystem.absolutePath (← get).workDir)

/-- The names of a path name after dots and double dots have been resolved by their text alone. -/
def plainNames (names : List ByteString) : List ByteString :=
  names.foldl (fun (done : List ByteString) (name : ByteString) =>
    if name = "." then done else if name = ".." then done.dropLast else done ++ [name]) []

/-- Goes to a directory. -/
def changeDir (args : List Bytes) : Eval Unit := do
  let s ← get
  let target := match args with
    | t :: _ => t
    | [] => (s.text? "HOME".toList).getD []
  match s.files.locate s.workDir target.toByteString with
  | .ok (l, .dir _) =>
    let old := Bytes.toByteString ((s.text? "PWD".toList).getD [])
    let names := plainNames (Pathname.names (Pathname.join old target.toByteString))
    set { s.set "PWD".toList (Bytes.ofByteString (FileSystem.absolutePath names)) with
      workDir := l
      status := 0 }
  | _ => fail 2 ("cd: can't cd to ".toList ++ target)

/-- Writes the path name of the directory; the physical one if told so. -/
def printDir (args : List Bytes) : Eval Unit := do
  let physical ← currentDir
  let logical := ((← get).text? "PWD".toList).getD physical
  say ((if args.contains "-P".toList then physical else logical) ++ ['\n'])
  setStatus 0

/-- A name and a value, where an argument has an equals sign. -/
def assigned (arg : Bytes) : Bytes × Option Bytes :=
  match arg.dropWhile (· ≠ '=') with
  | [] => (arg, none)
  | _ :: value => (arg.takeWhile (· ≠ '='), some value)

/-- Exports variables, setting those that have a value. -/
def exportAll (args : List Bytes) : Eval Unit := do
  for arg in args do
    let (name, value) := assigned arg
    modify fun s => (match value with
      | some v => s.set name v
      | none => s).export name
  setStatus 0

/-- Gives a function variables of its own. -/
def makeLocals (args : List Bytes) : Eval Unit := do
  for arg in args do
    let (name, value) := assigned arg
    modify (·.makeLocal name)
    match value with
    | some v => modify (·.set name v)
    | none => pure ()
  setStatus 0

/-- Sets variables. -/
def setAll (args : List Bytes) : Eval Unit := do
  for arg in args do
    let (name, value) := assigned arg
    modify fun s => s.set name (value.getD [])
  setStatus 0

/-- Sets options and the arguments of the shell. -/
def setOptions : List Bytes → Eval Unit
  | [] => setStatus 0
  | ['-', '-'] :: rest => modify fun s => { s with arguments := rest, status := 0 }
  | ('-' :: letters) :: rest => do
    if letters.contains 'e' then modify fun s => { s with stopsOnFailure := true }
    setOptions rest
  | ('+' :: letters) :: rest => do
    if letters.contains 'e' then modify fun s => { s with stopsOnFailure := false }
    setOptions rest
  | rest => modify fun s => { s with arguments := rest, status := 0 }

/-- Drops arguments of the shell. -/
def shift (args : List Bytes) : Eval Unit := do
  let n := (args.head?.bind digits?).getD 1
  let s ← get
  if s.arguments.length < n then abort 2 "shift: can't shift that many".toList
  set { s with arguments := s.arguments.drop n, status := 0 }

/-- Reads a line into variables, the last of which takes the rest. -/
def readInto (args : List Bytes) : Eval Unit := do
  let names := args.filter fun a => a.head? ≠ some '-'
  let s ← get
  let line := s.input.takeWhile (· ≠ '\n')
  let complete := line.length < s.input.length
  let isSeparator (c : Char) : Bool := s.separators.contains c
  let strip (t : Bytes) : Bytes := t.dropWhile isSeparator
  set { s with input := s.input.drop (line.length + 1), status := if complete then 0 else 1 }
  let rec assign : List Bytes → Bytes → Eval Unit
    | [], _ => pure ()
    | [name], text => modify fun s => s.set name ((strip text.reverse).reverse)
    | name :: rest, text => do
      modify fun s => s.set name (text.takeWhile (!isSeparator ·))
      assign rest (strip (text.dropWhile (!isSeparator ·)))
  assign names (strip line)

/-- Decides a condition: zero for true, one for false. -/
def test (name : String) (args : List Bytes) : Eval Unit := do
  let s ← get
  match Condition.eval s.files s.workDir args with
  | .ok value => setStatus (if value then 0 else 1)
  | .error e => fail 2 (name.toList ++ ": ".toList ++ e.message)

/-- Prints arguments in a format. -/
def printf (args : List Bytes) : Eval Unit := do
  let args := if args.head? = some "--".toList then args.tail else args
  match args with
  | [] => fail 2 "printf: usage: printf format [arg ...]".toList
  | format :: args =>
    let (text, faults) := Format.printed format args
    say text
    setStatus 0
    for f in faults do
      fail 1 ("printf: ".toList ++ f)

/-- A command of the shell by its name. -/
def builtin? (name : String) : Option (List Bytes → Eval Unit) :=
  match name with
  | ":" | "true" | "wait" | "trap" | "umask" => some fun _ => setStatus 0
  | "false" => some fun _ => setStatus 1
  | "echo" => some fun args => do
    say (Format.echoed args)
    setStatus 0
  | "printf" => some printf
  | "exit" => some fun args => do throw (.exit (← statusOf "exit" args))
  | "return" => some fun args => do throw (.returned (← statusOf "return" args))
  | "break" => some fun args => leaveLoops .breaking args
  | "continue" => some fun args => leaveLoops .continuing args
  | "cd" => some changeDir
  | "pwd" => some printDir
  | "export" => some exportAll
  | "local" => some makeLocals
  | "readonly" => some setAll
  | "unset" => some fun args => modify fun s =>
    { (args.filter (·.head? ≠ some '-')).foldl State.unset s with status := 0 }
  | "set" => some setOptions
  | "shift" => some shift
  | "read" => some readInto
  | "kill" => some kill
  | "test" => some (test "test")
  | "[" => some fun args =>
    if args.getLast? = some [']'] then test "[" args.dropLast else fail 2 "[: missing ]".toList
  | _ => none

/-- Commands whose assignments stay. -/
def isSpecial (name : String) : Bool :=
  [":", ".", "break", "continue", "eval", "exec", "exit", "export", "readonly", "return", "set", "shift",
    "trap", "unset"].contains name

/-! ## Programs that every system has -/

/-- A message of a program about one of its arguments. -/
def blame (program : String) (text : Bytes) (e : IoError) : Eval Unit := do
  let reason := match e with
    | .os errno => errno.description
    | e => e.message
  sayError (program.toList ++ ": ".toList ++ text ++ ": ".toList ++ Bytes.ofString reason ++ ['\n'])
  setStatus 1

/-- Does something for each argument, with the status zero if nothing fails. -/
def forEach (args : List Bytes) (body : Bytes → Eval Unit) : Eval Unit := do
  setStatus 0
  for a in args do body a

/-- Writes files, or the input, to the output. -/
def cat (args : List Bytes) : Eval Unit :=
  forEach (if args.isEmpty then [['-']] else args) fun a => do
    let s ← get
    if a = ['-'] then
      say s.input
      modify fun s => { s with input := [] }
    else
      match s.files.readBytes s.workDir a.toByteString with
      | .ok b => say (Bytes.ofOctets b)
      | .error e => blame "cat" a e

/-- Creates directories. -/
def mkdir (args : List Bytes) : Eval Unit :=
  forEach (args.filter (·.head? ≠ some '-')) fun a => do
    let s ← get
    let path := a.toByteString
    if args.contains "-p".toList then
      let (files, failure) := s.files.makeDirs s.workDir path
      set { s with files := files }
      match failure with
      | some e => blame "mkdir" ("cannot create directory '".toList ++ a ++ "'".toList) e
      | none => pure ()
    else
      match s.files.makeDir s.workDir path with
      | .ok files => set { s with files := files }
      | .error e => blame "mkdir" ("cannot create directory '".toList ++ a ++ "'".toList) e

/-- Removes files, and directories if told so. -/
def rm (args : List Bytes) : Eval Unit :=
  let options := (args.filter (·.head? = some '-')).flatten
  forEach (args.filter (·.head? ≠ some '-')) fun a => do
    let s ← get
    match s.files.resolve s.workDir false a.toByteString with
    | .ok (.entry l e) =>
      if e.isDir && !(options.contains 'r' || options.contains 'R') then
        blame "rm" ("cannot remove '".toList ++ a ++ "'".toList) (.os .isDirectory)
      else set { s with files := s.files.remove l }
    | _ =>
      if options.contains 'f' then pure ()
      else blame "rm" ("cannot remove '".toList ++ a ++ "'".toList) (.os .noEntry)

/-- Creates files that are not there. -/
def touch (args : List Bytes) : Eval Unit :=
  forEach (args.filter (·.head? ≠ some '-')) fun a => do
    let s ← get
    let path := a.toByteString
    if s.files.pathExists s.workDir path then pure ()
    else
      match s.files.writeBytes s.workDir path [] with
      | .ok files => set { s with files := files }
      | .error e => blame "touch" ("cannot touch '".toList ++ a ++ "'".toList) e

/-- Writes the names in a directory. -/
def ls (args : List Bytes) : Eval Unit :=
  let dirs := args.filter (·.head? ≠ some '-')
  forEach (if dirs.isEmpty then [['.']] else dirs) fun a => do
    let s ← get
    match s.files.listDir s.workDir a.toByteString with
    | .ok names =>
      let shown := (names.filter (·.toList.head? != some Pathname.dot)).mergeSort fun x y => decide (x ≤ y)
      say (shown.flatMap fun n => Bytes.ofByteString n ++ ['\n'])
    | .error (.os .notDirectory) => say (a ++ ['\n'])
    | .error e =>
      blame "ls" ("cannot access '".toList ++ a ++ "'".toList) e
      setStatus 2

/-- Writes the variables that programs see. -/
def env (_args : List Bytes) : Eval Unit := do
  for (name, text) in (← get).environment do
    say (name ++ ['='] ++ text ++ ['\n'])
  setStatus 0

/-- Writes the numbers from one to another, a line each. -/
def seq (args : List Bytes) : Eval Unit := do
  let bounds : Option (Nat × Nat) := match args.map digits? with
    | [some last] => some (1, last)
    | [some first, some last] => some (first, last)
    | _ => none
  match bounds with
  | some (first, last) =>
    say ((List.range' first (last + 1 - first)).flatMap fun n => Number.decimal n ++ ['\n'])
    setStatus 0
  | none => setStatus 1

/-- A program that every system has, by its name. -/
def utility? (name : String) : Option (List Bytes → Eval Unit) :=
  match name with
  | "echo" | "printf" | "true" | "false" | "pwd" | "test" | "[" | "kill" => builtin? name
  | "cat" => some cat
  | "mkdir" => some mkdir
  | "rm" => some rm
  | "touch" => some touch
  | "ls" => some ls
  | "env" => some env
  | "seq" => some seq
  | "sleep" => some fun _ => setStatus 0
  | _ => none

/-- Directories of the programs that every system has. -/
def systemDirs : List String := ["/bin/", "/usr/bin/"]

/-- The name of the program at a path name in one of these directories. -/
def systemName? (path : ByteString) : Option String :=
  (systemDirs.find? fun dir => path.shown.startsWith dir).map fun dir => (path.shown.drop dir.length).toString

/-- Names of shells. -/
def shellNames : List String := ["sh", "dash"]

/-- A shell stands at the path name. -/
def isShell (path : ByteString) : Bool := (systemName? path).any shellNames.contains

/-- The program at a path name, if every system has it and it is no shell. -/
def systemProgram? (path : ByteString) : Option (List Bytes → Eval Unit) :=
  (systemName? path).bind utility?

/-- The search path of a shell without one. -/
def defaultSearchPath : String := "/usr/local/sbin:/usr/local/bin:/usr/sbin:/usr/bin:/sbin:/bin"

end Checkout.Shell
