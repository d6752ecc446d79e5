import Checkout.Process.Lookup
import Checkout.Shell.Builtin
import Checkout.Shell.Expansion
import Checkout.Shell.Reader

/-!
# Carrying out scripts

`Run.eval` carries out a script, `Run.lines` a text line by line, and `Run.shell` what a shell does
with its own arguments. Bounds on the depth of commands within commands and on the rounds of a loop
make all of them end.
-/

namespace Checkout.Shell

/-- How deep commands may stand within commands. -/
def depthBound : Nat := 5000

/-- How many rounds a loop may take. -/
def roundBound : Nat := 1000000

/-- Options and arguments of a shell. -/
structure Invocation where
  stopsOnFailure : Bool
  /-- The arguments hold a script rather than a file name. -/
  isText : Bool
  arguments : List Bytes

/-- Reads the arguments of a shell. -/
def Invocation.ofArguments : Invocation → List Bytes → Invocation
  | i, ['-'] :: rest | i, ['-', '-'] :: rest => { i with arguments := rest }
  | i, ('-' :: letters) :: rest =>
    ofArguments
      { i with
        stopsOnFailure := i.stopsOnFailure || letters.contains 'e'
        isText := i.isText || letters.contains 'c' } rest
  | i, rest => { i with arguments := rest }

/-- What carries out a file that begins with two characters for it: a program and its option. -/
def interpreter? (content : Bytes) : Option (Bytes × List Bytes) :=
  match content with
  | '#' :: '!' :: rest =>
    let line := (rest.takeWhile (· ≠ '\n')).dropWhile fun c => c == ' ' || c == '\t'
    let program := line.takeWhile fun c => c ≠ ' ' ∧ c ≠ '\t'
    let option := (line.drop program.length).dropWhile fun c => c == ' ' || c == '\t'
    let option := (option.reverse.dropWhile fun c => c == ' ' || c == '\t').reverse
    if program.isEmpty then none else some (program, if option.isEmpty then [] else [option])
  | _ => none

/-- The program with its options is a shell. -/
def startsShell (program : Bytes) (options : List Bytes) : Bool :=
  isShell program.toByteString ||
    (program == "/usr/bin/env".toList && options == ["sh".toList])

/-- Something can be started at a path name. -/
def canStart (s : State) (path : ByteString) : Bool :=
  Lookup.isProgram s.files s.workDir path || isShell path || (systemProgram? path).isSome

/-- The state in which a program starts: what is not exported is gone. -/
def State.started (s : State) (name : Bytes) : State :=
  { s with
    name := name
    vars := s.vars.filter fun (_, v) => v.exported
    functions := []
    locals := []
    loops := 0
    arguments := []
    stopsOnFailure := false
    status := 0
    line := 1 }

/-- What is said about a signal that ended a program. -/
def signalText (signal : Nat) : Bytes :=
  match signal with
  | 2 | 13 => []
  | 1 => "Hangup\n".toList
  | 3 => "Quit\n".toList
  | 6 => "Aborted\n".toList
  | 9 => "Killed\n".toList
  | 10 => "User defined signal 1\n".toList
  | 11 => "Segmentation fault\n".toList
  | 12 => "User defined signal 2\n".toList
  | 14 => "Alarm clock\n".toList
  | 15 => "Terminated\n".toList
  | n => "Signal ".toList ++ Bytes.ofInt n ++ ['\n']

/-- Does something as a program of its own, which a signal ends alone. -/
def asProgram (name : Bytes) (body : Eval Unit) : Eval Unit := do
  let inside : Eval Unit := do
    modify (·.started name)
    tryCatch body fun h =>
      match h with
      | .killed signal => do
        sayError (signalText signal)
        throw (.exit (128 + signal))
      | h => throw h
  separately inside

/-- Ends the shell if the last command failed and nothing looks at its status. -/
def checkFailure (tested : Bool) : Eval Unit := do
  let s ← get
  if s.stopsOnFailure && s.status != 0 && !tested then throw (.exit s.status)

/-- Opens what a descriptor is redirected to. The result is the failure, if there is one. -/
def redirect (descriptor : Nat) (kind : RedirectionKind) (target : Bytes) : Eval (Option Bytes) := do
  let s ← get
  let path := target.toByteString
  let attach (sink : Sink) : Eval (Option Bytes) := do
    if descriptor = 1 then modify fun s => { s with out := sink }
    else if descriptor = 2 then modify fun s => { s with err := sink }
    else if descriptor = 0 then modify fun s => { s with input := [] }
    return none
  let describe (missing : String) (e : IoError) : Bytes :=
    match e with
    | .os .noEntry | .os .notDirectory => missing.toList
    | .os errno => errno.description.toList
    | e => Bytes.ofString e.message
  match kind with
  | .duplicate =>
    match target with
    | ['1'] => attach s.out
    | ['2'] => attach s.err
    | ['-'] => attach .nowhere
    | _ => return some (target ++ ": bad file descriptor".toList)
  | .input =>
    match s.files.readBytes s.workDir path with
    | .ok b =>
      set { s with input := Bytes.ofOctets b }
      return none
    | .error e => return some ("cannot open ".toList ++ target ++ ": ".toList ++ describe "No such file" e)
  | .output | .append =>
    let opened := if kind = .append ∧ s.files.pathExists s.workDir path then
        (if s.files.isDir s.workDir path then .error (.os .isDirectory) else .ok s.files)
      else s.files.writeBytes s.workDir path []
    match opened with
    | .error e =>
      return some ("cannot create ".toList ++ target ++ ": ".toList ++ describe "Directory nonexistent" e)
    | .ok files =>
      set { s with files := files }
      match files.locate s.workDir path with
      | .ok (l, .file _ _) => attach (.file l)
      | _ => attach .nowhere

/-- The value of a parameter that is one text. -/
def parameter? (s : State) (name : Bytes) : Option Bytes :=
  match name with
  | ['#'] => some (Bytes.ofInt s.arguments.length)
  | ['?'] => some (Bytes.ofInt s.status)
  | ['$'] => some (Bytes.ofInt processNumber)
  | ['-'] => some (if s.stopsOnFailure then ['e'] else [])
  | ['!'] => none
  | ['@'] | ['*'] => if s.arguments.isEmpty then none else some ([' '].intercalate s.arguments)
  | _ =>
    match digits? name with
    | some 0 => some s.name
    | some (n + 1) => s.arguments[n]?
    | none => s.text? name

/-- The marks of a text that an expansion yields. -/
def expanded (s : State) (split inQuotes : Bool) (text : Bytes) : List Mark :=
  if inQuotes then Mark.ofQuoted text
  else if split then Mark.ofSplit s.separators text
  else Mark.ofPlain text

/-- The marks of all arguments. -/
def allArguments (s : State) (split inQuotes : Bool) (name : Bytes) : List Mark :=
  if inQuotes && name == ['*'] then Mark.ofQuoted ((s.separators.take 1).intercalate s.arguments)
  else if !split && !inQuotes then Mark.ofPlain ([' '].intercalate s.arguments)
  else Mark.bordered (s.arguments.map (expanded s split inQuotes))

/-- The words of a home directory in front of a path name. -/
def withHome (s : State) (w : Word) : Word :=
  match w with
  | .plain ('~' :: rest) :: more =>
    if rest.isEmpty ∨ rest.head? = some '/' then
      match s.text? "HOME".toList with
      | some home => .quoted home :: .plain rest :: more
      | none => w
    else w
  | w => w

/-- Writes what the name of a command stands for. -/
def locateCommand (name : Bytes) : Eval Unit := do
  let s ← get
  let word := Bytes.toString name
  let found : Option Bytes :=
    if (s.functions.lookup name).isSome ∨ (builtin? word).isSome then some name
    else if (utility? word).isSome ∨ shellNames.contains word then some ("/usr/bin/".toList ++ name)
    else none
  match found with
  | some text => do
    say (text ++ ['\n'])
    setStatus 0
  | none => setStatus 127

namespace Run

mutual

/-- Expands a word. -/
def marks : Nat → Bool → Word → Eval (List Mark)
  | 0, _, _ => throw .outOfSteps
  | _ + 1, _, [] => return []
  | fuel + 1, split, piece :: rest => do
    let front ← match piece with
      | .plain text => pure (Mark.ofPlain text)
      | .quoted text => pure (Mark.ofQuoted text)
      | .parameter inQuotes name modifier => parameter fuel split inQuotes name modifier
      | .command inQuotes script => do
        let output ← capture (lines fuel (Token.ofBytes script))
        let text := (output.reverse.dropWhile (· == '\n')).reverse
        pure (expanded (← get) split inQuotes (text.filter (· ≠ '\x00')))
      | .arithmetic inQuotes text => do
        let n ← arithmetic fuel text
        pure (expanded (← get) split inQuotes (Bytes.ofInt n))
    return front ++ (← marks fuel split rest)

/-- Expands a text that belongs to a parameter. -/
def inner : Nat → Bool → Bool → Bytes → Eval (List Mark)
  | 0, _, _, _ => throw .outOfSteps
  | fuel + 1, split, inQuotes, text =>
    match if inQuotes then Token.quotedWordOf text else Token.wordOf text with
    | .ok w => do
      let ms ← marks fuel split w
      if inQuotes then return .anchor :: ms
      let s ← get
      return if split then Mark.splitAgain s.separators ms else ms
    | .error message => abort 2 ("Syntax error: ".toList ++ message.toList)

/-- Expands a parameter. -/
def parameter : Nat → Bool → Bool → Bytes → Modifier → Eval (List Mark)
  | 0, _, _, _, _ => throw .outOfSteps
  | fuel + 1, split, inQuotes, name, modifier => do
    let s ← get
    let value := parameter? s name
    let isThere (orEmpty : Bool) : Bool := value.isSome && !(orEmpty && value == some [])
    let present : List Mark :=
      if name = ['@'] ∨ name = ['*'] then allArguments s split inQuotes name
      else expanded s split inQuotes (value.getD [])
    match modifier with
    | .value => return present
    | .length => return expanded s split inQuotes (Bytes.ofInt (value.getD []).length)
    | .orElse orEmpty word => if isThere orEmpty then return present else inner fuel split inQuotes word
    | .alternative orEmpty word =>
      if isThere orEmpty then inner fuel split inQuotes word
      else return if inQuotes then [.anchor] else []
    | .assign orEmpty word =>
      if isThere orEmpty then return present
      else
        let text := (Mark.pattern (← inner fuel false inQuotes word)).text
        modify (·.set name text)
        return expanded (← get) split inQuotes text
    | .orFail orEmpty word =>
      if isThere orEmpty then return present
      else
        let text := (Mark.pattern (← inner fuel false false word)).text
        let text := if word.isEmpty then
            (if orEmpty then "parameter not set or null".toList else "parameter not set".toList)
          else text
        abort 2 (name ++ ": ".toList ++ text)
    | .trimStart longest word =>
      let p := Mark.pattern (← inner fuel false false word)
      return expanded s split inQuotes (Pattern.trimStart p longest (value.getD []))
    | .trimEnd longest word =>
      let p := Mark.pattern (← inner fuel false false word)
      return expanded s split inQuotes (Pattern.trimEnd p longest (value.getD []))

/-- The value of an expression, in which words are expanded first. -/
def arithmetic : Nat → Bytes → Eval Int
  | 0, _ => throw .outOfSteps
  | fuel + 1, text => do
    let text := (Mark.pattern (← inner fuel false true text)).text
    let s ← get
    let vars := s.vars.map fun (name, v) => (name, v.text)
    match do Arithmetic.eval vars (← Arithmetic.read text) with
    | .error e => abort 2 (e.message text)
    | .ok (n, after) =>
      for (name, value) in after do
        if vars.lookup name ≠ some value then modify (·.set name value)
      return n

/-- Expands a word to one text. -/
def text : Nat → Word → Eval Bytes
  | 0, _ => throw .outOfSteps
  | fuel + 1, w => do
    return (Mark.pattern (← marks fuel false (withHome (← get) w))).text

/-- Expands words to fields. -/
def fields : Nat → List Word → Eval (List Bytes)
  | 0, _ => throw .outOfSteps
  | _ + 1, [] => return []
  | fuel + 1, w :: rest => do
    let ms ← marks fuel true (withHome (← get) w)
    let s ← get
    let front := (Mark.fields ⟨[], false, false⟩ ms).flatMap (pathsOf s.files s.workDir)
    return front ++ (← fields fuel rest)

/-- Opens redirections one after the other, up to one that fails. -/
def redirectAll : Nat → List Redirection → Eval (Option Bytes)
  | 0, _ => throw .outOfSteps
  | _ + 1, [] => return none
  | fuel + 1, r :: rest => do
    let target ← text fuel r.target
    match ← redirect r.descriptor r.kind target with
    | some failure => return some failure
    | none => redirectAll fuel rest

/-- Sets variables one after the other. -/
def assignAll : Nat → List (Bytes × Word) → Eval Unit
  | 0, _ => throw .outOfSteps
  | _ + 1, [] => pure ()
  | fuel + 1, (name, w) :: rest => do
    let value ← text fuel w
    modify (·.set name value)
    assignAll fuel rest

/-- Carries out a script. `tested` says that something looks at its status. -/
def eval : Nat → Bool → Script → Eval Unit
  | 0, _, _ => throw .outOfSteps
  | fuel + 1, tested, script =>
    match script with
    | .nothing => setStatus 0
    | .simple line assignments words => do
      modify fun s => { s with line := line }
      let args ← fields fuel words
      match args with
      | [] =>
        setStatus 0
        assignAll fuel assignments
      | name :: args => named fuel assignments name args
      checkFailure tested
    | .redirected line body redirections => do
      let stays := match body with
        | .simple _ _ [[.plain name]] => name == "exec".toList
        | _ => false
      let back (s t : State) : State :=
        if stays then t
        else { t with
          out := s.out
          err := s.err
          input := if redirections.any (·.descriptor == 0) then s.input else t.input }
      restoring back do
        modify fun s => { s with line := line }
        match ← redirectAll fuel redirections with
        | some failure =>
          fail 2 failure
          checkFailure tested
        | none => eval fuel tested body
    | .sequence first second => do
      eval fuel tested first
      eval fuel tested second
    | .andThen first second => do
      eval fuel true first
      if (← get).status = 0 then eval fuel tested second
    | .orElse first second => do
      eval fuel true first
      if (← get).status ≠ 0 then eval fuel tested second
    | .negated body => do
      eval fuel true body
      setStatus (if (← get).status = 0 then 1 else 0)
    | .pipe first second => do
      let output ← capture (eval fuel tested first)
      restoring (fun s t => { t with input := s.input }) do
        modify fun s => { s with input := output }
        separately (eval fuel tested second)
      checkFailure tested
    | .subshell body => do
      separately (eval fuel tested body)
      checkFailure tested
    | .branch condition yes no => do
      eval fuel true condition
      if (← get).status = 0 then eval fuel tested yes else eval fuel tested no
    | .loop untilTrue condition body =>
      repeatWhile (do
        eval fuel true condition
        if ((← get).status == 0) == untilTrue then
          setStatus 0
          return false
        loopStep (eval fuel tested body)) roundBound
    | .each name words body => do
      let items ← match words with
        | some ws => fields fuel ws
        | none => pure (← get).arguments
      setStatus 0
      let _ ← items.foldlM (fun goesOn item =>
        if goesOn then do
          modify (·.set name item)
          loopStep (eval fuel tested body)
        else pure false) true
    | .choose word clauses => do
      let subject ← text fuel word
      setStatus 0
      choose fuel tested subject clauses
    | .define name body => do
      modify fun s => { s with functions := (name, body) :: s.functions.filter (·.1 ≠ name) }
      setStatus 0

/-- Carries out the first clause with a pattern that matches. -/
def choose : Nat → Bool → Bytes → List (List Word × Script) → Eval Unit
  | 0, _, _, _ => throw .outOfSteps
  | _ + 1, _, _, [] => pure ()
  | fuel + 1, tested, subject, (patterns, body) :: rest => do
    if ← anyMatch fuel subject patterns then eval fuel tested body
    else choose fuel tested subject rest

/-- One of some patterns matches. -/
def anyMatch : Nat → Bytes → List Word → Eval Bool
  | 0, _, _ => throw .outOfSteps
  | _ + 1, _, [] => return false
  | fuel + 1, subject, w :: rest => do
    let p := Mark.pattern (← marks fuel false w)
    if Pattern.isMatch p subject then return true else anyMatch fuel subject rest

/-- Carries out a command by its name, with assignments in front of it. -/
def named : Nat → List (Bytes × Word) → Bytes → List Bytes → Eval Unit
  | 0, _, _, _ => throw .outOfSteps
  | fuel + 1, assignments, name, args => do
    let s ← get
    let word := Bytes.toString name
    match s.functions.lookup name with
    | some body =>
      assignAll fuel assignments
      let back (s t : State) : State := { t.dropLocals with arguments := s.arguments, locals := s.locals }
      restoring back do
        modify fun s => { s with arguments := args, locals := [] }
        tryCatch (eval fuel false body) fun h =>
          match h with
          | .returned n => setStatus n
          | h => throw h
    | none =>
      let before := s.vars
      let restore (t : State) : State := if isSpecial word then t else { t with vars := before }
      assignAll fuel assignments
      if assignments.isEmpty then command fuel word name args
      else
        modify fun s => assignments.foldl (fun s (name, _) => s.export name) s
        restoring (fun _ t => restore t) (command fuel word name args)

/-- Carries out a command that is no function. -/
def command : Nat → String → Bytes → List Bytes → Eval Unit
  | 0, _, _, _ => throw .outOfSteps
  | fuel + 1, word, name, args =>
    match word with
    | "eval" => lines fuel (Token.ofBytes ([' '].intercalate args))
    | "exec" =>
      match args with
      | [] => setStatus 0
      | program :: args => do
        start fuel program args
        throw (.exit (← get).status)
    | "command" =>
      match args with
      | ['-', 'v'] :: target :: _ => locateCommand target
      | target :: args => command fuel (Bytes.toString target) target args
      | [] => setStatus 0
    | "." =>
      match args with
      | [] => abort 2 ".: filename argument required".toList
      | file :: _ => do
        let s ← get
        match s.files.readBytes s.workDir file.toByteString with
        | .ok b => lines fuel (Token.ofBytes (Bytes.ofOctets b))
        | .error _ => abort 2 (".: cannot open ".toList ++ file ++ ": No such file".toList)
    | word =>
      match builtin? word with
      | some body => body args
      | none => start fuel name args

/-- Starts a program and waits for it. -/
def start : Nat → Bytes → List Bytes → Eval Unit
  | 0, _, _ => throw .outOfSteps
  | fuel + 1, name, args => do
    let s ← get
    let searchPath := ((s.text? "PATH".toList).map Bytes.toByteString).getD defaultSearchPath
    let paths := Lookup.candidates "" (some searchPath) name.toByteString
    match paths.find? (canStart s) with
    | none =>
      if paths.any (s.files.pathExists s.workDir) then fail 126 (name ++ ": Permission denied".toList)
      else fail 127 (name ++ ": not found".toList)
    | some path =>
      if Lookup.isProgram s.files s.workDir path then
        asProgram (Bytes.ofByteString path) (file fuel (Bytes.ofByteString path) args)
      else
        match systemProgram? path with
        | some body => asProgram name (body args)
        | none => asProgram name (shell fuel args)

/-- Carries out a file as a program. -/
def file : Nat → Bytes → List Bytes → Eval Unit
  | 0, _, _ => throw .outOfSteps
  | fuel + 1, path, args => do
    let s ← get
    let content := match s.files.readBytes s.workDir path.toByteString with
      | .ok b => Bytes.ofOctets b
      | .error _ => []
    match interpreter? content with
    | none => shell fuel (path :: args)
    | some (program, options) =>
      if startsShell program options then
        let options := if options == ["sh".toList] then [] else options
        modify fun s => { s with name := program }
        shell fuel (options ++ path :: args)
      else start fuel program (options ++ path :: args)

/-- What a shell does with its arguments. -/
def shell : Nat → List Bytes → Eval Unit
  | 0, _ => throw .outOfSteps
  | fuel + 1, args => do
    let i := Invocation.ofArguments ⟨false, false, []⟩ args
    modify fun s => { s with stopsOnFailure := i.stopsOnFailure }
    match i.arguments with
    | [] =>
      if i.isText then do
        modify fun s => { s with line := 0 }
        abort 2 "-c requires an argument".toList
      let s ← get
      set { s with input := [] }
      lines fuel (Token.ofBytes s.input)
    | first :: rest =>
      if i.isText then
        modify fun s => { s with name := rest.headD s.name, arguments := rest.tail }
        lines fuel (Token.ofBytes first)
      else
        let s ← get
        match s.files.readBytes s.workDir first.toByteString with
        | .error _ =>
          modify fun s => { s with line := 0 }
          abort 2 ("cannot open ".toList ++ first ++ ": No such file".toList)
        | .ok b =>
          set { s with name := first, arguments := rest }
          lines fuel (Token.ofBytes (Bytes.ofOctets b))

/-- Carries out a text line by line. -/
def lines : Nat → List Lexeme → Eval Unit
  | 0, _ => throw .outOfSteps
  | fuel + 1, ls =>
    match Reader.readLine ls with
    | .error fault => do
      modify fun s => { s with line := fault.line }
      abort 2 fault.message.toList
    | .ok none => pure ()
    | .ok (some (script, rest)) => do
      eval fuel false script
      lines fuel rest

end

end Run

end Checkout.Shell
