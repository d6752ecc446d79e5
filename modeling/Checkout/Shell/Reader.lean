import Checkout.Shell.Token

/-!
# Reading scripts

`readLine` reads one line of tokens, or several where brackets or words such as `if` call for more. A
script is carried out line by line, so that what stands in front of a fault still takes place.
-/

namespace Checkout.Shell

/-- A token that cannot stand where it does. -/
structure Fault where
  line : Nat
  message : String
  deriving DecidableEq, Repr

namespace Reader

/-- Words that have a meaning where a command may stand. -/
def reserved : List String :=
  ["if", "then", "else", "elif", "fi", "do", "done", "case", "esac", "while", "until", "for", "in",
    "!", "\x7b", "\x7d"]

/-- The reserved word that a token is. -/
def keyword? : Token → Option String
  | .word [.plain text] => reserved.find? (·.toList == text)
  | _ => none

/-- What is said about a token that is out of place. -/
def describe (t : Token) : String :=
  match t with
  | .finish => "end of file"
  | .newline => "newline"
  | .descriptor _ => "redirection"
  | .operator op =>
    if op.startsWith "<" || op.startsWith ">" then "redirection" else "\"" ++ op ++ "\""
  | .fault m => m
  | .word _ =>
    match keyword? t with
    | some k => "\"" ++ k ++ "\""
    | none => "word"

/-- The fault of a token that is out of place, with what is expected there. -/
def misplaced {α : Type} (hope : String) : List Lexeme → Except Fault α
  | [] => .error ⟨1, "Syntax error: end of file unexpected"⟩
  | ⟨.fault m, line⟩ :: _ => .error ⟨line, "Syntax error: " ++ m⟩
  | ⟨t, line⟩ :: _ => .error ⟨line, "Syntax error: " ++ describe t ++ " unexpected" ++ hope⟩

/-- The fault of a token that is out of place, where another one is expected perhaps. -/
def unexpected {α : Type} (expected : Option String) (ls : List Lexeme) : Except Fault α :=
  match expected with
  | some e => misplaced (" (expecting \"" ++ e ++ "\")") ls
  | none => misplaced "" ls

/-- Goes past a reserved word that has to be there. -/
def expectWord (k : String) : List Lexeme → Except Fault (List Lexeme)
  | ⟨t, line⟩ :: rest =>
    if keyword? t = some k then .ok rest else unexpected (some k) (⟨t, line⟩ :: rest)
  | [] => unexpected (some k) []

/-- Goes past an operator that has to be there. -/
def expectOperator (op : String) : List Lexeme → Except Fault (List Lexeme)
  | ⟨t, line⟩ :: rest =>
    if t = .operator op then .ok rest else unexpected (some op) (⟨t, line⟩ :: rest)
  | [] => unexpected (some op) []

/-- Goes past ends of lines. -/
def skipLines (ls : List Lexeme) : List Lexeme := ls.dropWhile (·.token == .newline)

/-- A name and a word, where a word has the form of an assignment. -/
def assignment? : Word → Option (Bytes × Word)
  | .plain text :: rest =>
    match text with
    | c :: _ =>
      let name := text.takeWhile Token.inName
      match text.dropWhile Token.inName with
      | '=' :: value =>
        if Token.startsName c then some (name, if value.isEmpty then rest else .plain value :: rest)
        else none
      | _ => none
    | [] => none
  | _ => none

/-- A redirection, if one comes next. -/
def redirection? (ls : List Lexeme) : Except Fault (Option (Redirection × List Lexeme)) :=
  let (given, ls) := match ls with
    | ⟨.descriptor n, _⟩ :: rest => (some n, rest)
    | ls => (none, ls)
  match ls with
  | ⟨.operator op, _⟩ :: rest =>
    let shape : Option (Nat × RedirectionKind) := match op with
      | "<" | "<>" => some (0, .input)
      | ">" | ">|" => some (1, .output)
      | ">>" => some (1, .append)
      | "<&" => some (0, .duplicate)
      | ">&" => some (1, .duplicate)
      | _ => none
    match shape with
    | none => .ok none
    | some (standard, kind) =>
      match rest with
      | ⟨.word w, _⟩ :: rest => .ok (some (⟨given.getD standard, kind, w⟩, rest))
      | rest => unexpected none rest
  | _ => .ok none

/-- The redirections that come next. Fuel: the number of tokens. -/
def redirections : Nat → List Lexeme → Except Fault (List Redirection × List Lexeme)
  | 0, ls => .ok ([], ls)
  | fuel + 1, ls => do
    match ← redirection? ls with
    | none => return ([], ls)
    | some (r, rest) =>
      let (rs, rest) ← redirections fuel rest
      return (r :: rs, rest)

/-- What a simple command is made of. -/
structure Parts where
  assignments : List (Bytes × Word)
  words : List Word
  redirections : List Redirection

/-- The rest of a simple command. Fuel: the number of tokens. -/
def parts : Nat → Parts → List Lexeme → Except Fault (Parts × List Lexeme)
  | 0, p, ls => .ok (p, ls)
  | fuel + 1, p, ls => do
    match ls with
    | ⟨.word w, _⟩ :: rest =>
      match if p.words.isEmpty then assignment? w else none with
      | some a => parts fuel { p with assignments := p.assignments ++ [a] } rest
      | none => parts fuel { p with words := p.words ++ [w] } rest
    | _ =>
      match ← redirection? ls with
      | some (r, rest) => parts fuel { p with redirections := p.redirections ++ [r] } rest
      | none => return (p, ls)

/-- The words up to the end of a line or a semicolon. -/
def wordList : List Lexeme → List Word × List Lexeme
  | ⟨.word w, _⟩ :: rest =>
    let (ws, after) := wordList rest
    (w :: ws, after)
  | ls => ([], ls)

/-- The patterns of a clause, up to the closing bracket. -/
def patterns : List Lexeme → Except Fault (List Word × List Lexeme)
  | ⟨.word w, _⟩ :: ⟨.operator "|", _⟩ :: rest => do
    let (ws, after) ← patterns rest
    return (w :: ws, after)
  | ⟨.word w, _⟩ :: rest => do return ([w], ← expectOperator ")" rest)
  | ls => unexpected none ls

/-- A body with redirections, if there are any. -/
def withRedirections (line : Nat) (body : Script) (rs : List Redirection) : Script :=
  if rs.isEmpty then body else .redirected line body rs

/-- Reserved words that end a list of commands. -/
def enders : List String := ["then", "else", "elif", "fi", "do", "done", "esac", "\x7d"]

/-- The list goes on behind a separator. -/
def goesOn (ls : List Lexeme) : Bool :=
  match ls with
  | ⟨.finish, _⟩ :: _ => false
  | ⟨.operator op, _⟩ :: _ => op != ")" && op != ";;"
  | ⟨t, _⟩ :: _ =>
    match keyword? t with
    | some k => !enders.contains k
    | none => true
  | [] => false

mutual

/-- Commands up to a word or an operator that ends them. -/
def list : Nat → List Lexeme → Except Fault (Script × List Lexeme)
  | 0, ls => unexpected none ls
  | fuel + 1, ls => do
    let (first, rest) ← andOr fuel (skipLines ls)
    match rest with
    | ⟨.newline, _⟩ :: rest | ⟨.operator ";", _⟩ :: rest | ⟨.operator "&", _⟩ :: rest =>
      let rest := skipLines rest
      if goesOn rest then
        let (second, rest) ← list fuel rest
        return (.sequence first second, rest)
      else return (first, rest)
    | rest => return (first, rest)

/-- Commands joined by `&&` and `||`. -/
def andOr : Nat → List Lexeme → Except Fault (Script × List Lexeme)
  | 0, ls => unexpected none ls
  | fuel + 1, ls => do
    let (first, rest) ← pipeline fuel ls
    andOrRest fuel first rest

/-- What is joined to a command by `&&` and `||`, from left to right. -/
def andOrRest : Nat → Script → List Lexeme → Except Fault (Script × List Lexeme)
  | 0, _, ls => unexpected none ls
  | fuel + 1, first, ls =>
    match ls with
    | ⟨.operator "&&", _⟩ :: rest => do
      let (second, rest) ← pipeline fuel (skipLines rest)
      andOrRest fuel (.andThen first second) rest
    | ⟨.operator "||", _⟩ :: rest => do
      let (second, rest) ← pipeline fuel (skipLines rest)
      andOrRest fuel (.orElse first second) rest
    | ls => .ok (first, ls)

/-- Commands joined by `|`, with `!` in front perhaps. -/
def pipeline : Nat → List Lexeme → Except Fault (Script × List Lexeme)
  | 0, ls => unexpected none ls
  | fuel + 1, ls => do
    let negated := (ls.head?.bind fun l => keyword? l.token) == some "!"
    let (first, rest) ← command fuel (if negated then ls.tail else ls)
    let (body, rest) ← pipelineRest fuel first rest
    return (if negated then .negated body else body, rest)

/-- What is joined to a command by `|`. -/
def pipelineRest : Nat → Script → List Lexeme → Except Fault (Script × List Lexeme)
  | 0, _, ls => unexpected none ls
  | fuel + 1, first, ls =>
    match ls with
    | ⟨.operator "|", _⟩ :: rest => do
      let (second, rest) ← command fuel (skipLines rest)
      let (more, rest) ← pipelineRest fuel second rest
      return (.pipe first more, rest)
    | ls => .ok (first, ls)

/-- One command with its redirections. -/
def command : Nat → List Lexeme → Except Fault (Script × List Lexeme)
  | 0, ls => unexpected none ls
  | fuel + 1, ls => do
    match ls with
    | ⟨.word [.plain text], line⟩ :: ⟨.operator "(", at_⟩ :: rest =>
      if (keyword? (.word [.plain text])).isNone then
        let (body, rest) ← command fuel (skipLines (← expectOperator ")" rest))
        return (.define text body, rest)
      else compound fuel line (.word [.plain text]) (⟨.operator "(", at_⟩ :: rest)
    | ⟨t, line⟩ :: rest => compound fuel line t rest
    | [] => unexpected none ls

/-- One command that defines no function: its first token on a line, and what follows. -/
def compound : Nat → Nat → Token → List Lexeme → Except Fault (Script × List Lexeme)
  | 0, line, t, rest => unexpected none (⟨t, line⟩ :: rest)
  | fuel + 1, line, t, rest => do
      let ls : List Lexeme := ⟨t, line⟩ :: rest
      let compound ← match t, keyword? t with
        | .operator "(", _ => some <$> (do
            let (body, rest) ← list fuel rest
            return (Script.subshell body, ← expectOperator ")" rest))
        | _, some "\x7b" => some <$> (do
            let (body, rest) ← list fuel rest
            return (body, ← expectWord "\x7d" rest))
        | _, some "if" => some <$> conditional fuel rest
        | _, some "while" => some <$> looping fuel false rest
        | _, some "until" => some <$> looping fuel true rest
        | _, some "for" => some <$> counting fuel rest
        | _, some "case" => some <$> choice fuel rest
        | _, some "in" => pure none
        | _, some _ => unexpected none ls
        | _, none => pure none
      match compound with
      | some (body, rest) =>
        let (rs, rest) ← redirections rest.length rest
        return (withRedirections line body rs, rest)
      | none =>
        let (p, rest) ← parts ls.length ⟨[], [], []⟩ ls
        if p.assignments.isEmpty && p.words.isEmpty && p.redirections.isEmpty then unexpected none ls
        else return (withRedirections line (.simple line p.assignments p.words) p.redirections, rest)

/-- What follows `if` or `elif`. -/
def conditional : Nat → List Lexeme → Except Fault (Script × List Lexeme)
  | 0, ls => unexpected none ls
  | fuel + 1, ls => do
    let (condition, rest) ← list fuel ls
    let (yes, rest) ← list fuel (← expectWord "then" rest)
    match rest.head?.bind fun l => keyword? l.token with
    | some "elif" =>
      let (no, rest) ← conditional fuel rest.tail
      return (.branch condition yes no, rest)
    | some "else" =>
      let (no, rest) ← list fuel rest.tail
      return (.branch condition yes no, ← expectWord "fi" rest)
    | _ => return (.branch condition yes .nothing, ← expectWord "fi" rest)

/-- What follows `while` or `until`. -/
def looping : Nat → Bool → List Lexeme → Except Fault (Script × List Lexeme)
  | 0, _, ls => unexpected none ls
  | fuel + 1, untilTrue, ls => do
    let (condition, rest) ← list fuel ls
    let (body, rest) ← list fuel (← expectWord "do" rest)
    return (.loop untilTrue condition body, ← expectWord "done" rest)

/-- What follows `for`. -/
def counting : Nat → List Lexeme → Except Fault (Script × List Lexeme)
  | 0, ls => unexpected none ls
  | fuel + 1, ls => do
    match ls with
    | ⟨.word [.plain name], _⟩ :: rest =>
      let rest := skipLines rest
      let (words, rest) := match rest.head?.bind fun l => keyword? l.token with
        | some "in" =>
          let (ws, rest) := wordList rest.tail
          (some ws, rest)
        | _ => (none, rest)
      let rest := match rest with
        | ⟨.operator ";", _⟩ :: rest => rest
        | rest => rest
      let (body, rest) ← list fuel (← expectWord "do" (skipLines rest))
      return (.each name words body, ← expectWord "done" rest)
    | ⟨_, line⟩ :: _ => throw ⟨line, "Syntax error: Bad for loop variable"⟩
    | ls => unexpected none ls

/-- What follows `case`. -/
def choice : Nat → List Lexeme → Except Fault (Script × List Lexeme)
  | 0, ls => unexpected none ls
  | fuel + 1, ls => do
    match ls with
    | ⟨.word w, _⟩ :: rest =>
      let (cs, rest) ← clauses fuel (skipLines (← expectWord "in" (skipLines rest)))
      return (.choose w cs, rest)
    | ls => misplaced " (expecting word)" ls

/-- The clauses of a choice, with the word that ends them. -/
def clauses : Nat → List Lexeme → Except Fault (List (List Word × Script) × List Lexeme)
  | 0, ls => unexpected none ls
  | fuel + 1, ls => do
    match ls with
    | [] => unexpected (some "esac") ls
    | ⟨t, _⟩ :: after =>
      if keyword? t = some "esac" then return ([], after)
      let (ps, rest) ← patterns (if t = .operator "(" then after else ls)
      let rest := skipLines rest
      let (body, rest) ← if goesOn rest then list fuel rest else pure (.nothing, rest)
      match rest with
      | ⟨.operator ";;", _⟩ :: rest =>
        let (more, rest) ← clauses fuel (skipLines rest)
        return ((ps, body) :: more, rest)
      | rest => return ([(ps, body)], ← expectWord "esac" rest)

end

/-- The commands of one line, up to its end. -/
def lineCommands : Nat → List Lexeme → Except Fault (Script × List Lexeme)
  | 0, ls => unexpected none ls
  | fuel + 1, ls => do
    let (first, rest) ← andOr fuel ls
    match rest with
    | ⟨.operator ";", _⟩ :: rest | ⟨.operator "&", _⟩ :: rest =>
      match rest with
      | ⟨.newline, _⟩ :: rest => return (first, rest)
      | ⟨.finish, _⟩ :: _ => return (first, rest)
      | rest =>
        let (second, rest) ← lineCommands fuel rest
        return (.sequence first second, rest)
    | ⟨.newline, _⟩ :: rest => return (first, rest)
    | ⟨.finish, _⟩ :: _ => return (first, rest)
    | rest => unexpected none rest

/-- Reads one line of commands. There is none at the end of the text. -/
def readLine (ls : List Lexeme) : Except Fault (Option (Script × List Lexeme)) :=
  match skipLines ls with
  | [] => .ok none
  | ⟨.finish, _⟩ :: _ => .ok none
  | ls => (lineCommands (8 * ls.length + 8) ls).map some

end Reader

end Checkout.Shell
