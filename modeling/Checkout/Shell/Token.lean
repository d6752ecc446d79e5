import Checkout.Shell.Basic

/-!
# Tokens

`Token.ofBytes` splits text into words, operators and ends of lines. Each token has the number of the
line that it ends on. A text that ends inside quotes or brackets has a token that says so.
-/

namespace Checkout.Shell

/-- A part of a text that the grammar does not look into. -/
inductive Token where
  | word (w : Word)
  /-- The number of a descriptor, in front of a redirection. -/
  | descriptor (n : Nat)
  | operator (text : String)
  | newline
  /-- What follows makes no sense. -/
  | fault (message : String)
  /-- The end of the text. -/
  | finish
  deriving DecidableEq, Repr

/-- A token with the number of its line. -/
structure Lexeme where
  token : Token
  line : Nat
  deriving DecidableEq, Repr

namespace Token

def doubleQuote : Char := '\x22'

def singleQuote : Char := '\x27'

def backslash : Char := '\x5c'

def backquote : Char := '\x60'

/-! ## Quotes and brackets -/

/-- Splits text at the closing bracket that ends it. The stack holds what is still open, innermost
first, each by what closes it. -/
def takeBalanced (taken : Bytes) : List Char → Bytes → Option (Bytes × Bytes)
  | [], rest => some (taken.reverse, rest)
  | _ :: _, [] => none
  | top :: stack, c :: rest =>
    if c = top then
      if stack.isEmpty then some (taken.reverse, rest) else takeBalanced (c :: taken) stack rest
    else if top = singleQuote then takeBalanced (c :: taken) (top :: stack) rest
    else if c = backslash then
      match rest with
      | [] => none
      | d :: rest => takeBalanced (d :: c :: taken) (top :: stack) rest
    else if c = singleQuote ∧ top ≠ doubleQuote then
      takeBalanced (c :: taken) (singleQuote :: top :: stack) rest
    else if c = doubleQuote then takeBalanced (c :: taken) (doubleQuote :: top :: stack) rest
    else if c = '(' ∧ (top = ')' ∨ taken.head? = some '$') then
      takeBalanced (c :: taken) (')' :: top :: stack) rest
    else if c = '\x7b' ∧ taken.head? = some '$' then
      takeBalanced (c :: taken) ('\x7d' :: top :: stack) rest
    else takeBalanced (c :: taken) (top :: stack) rest

/-- Splits text at the backquote that ends a script. A backslash in front of a dollar sign, a backquote
or a backslash is left out. -/
def takeBackquoted : Bytes → Option (Bytes × Bytes)
  | [] => none
  | c :: rest =>
    if c = backquote then some ([], rest)
    else if c = backslash then
      match rest with
      | [] => none
      | d :: rest =>
        (takeBackquoted rest).map fun (script, after) =>
          (if d = '$' ∨ d = backquote ∨ d = backslash then (d :: script, after)
            else (c :: d :: script, after))
    else (takeBackquoted rest).map fun (script, after) => (c :: script, after)

/-! ## Parameters -/

def startsName (c : Char) : Bool := c.isAlpha || c == '_'

def inName (c : Char) : Bool := c.isAlphanum || c == '_'

/-- Characters that are names of parameters by themselves. -/
def isSpecial (c : Char) : Bool := ['@', '*', '#', '?', '-', '$', '!'].contains c

/-- The name of a parameter at the start of a text, and what follows it. In braces a number may have
several digits. -/
def takeName (inBraces : Bool) : Bytes → Option (Bytes × Bytes)
  | [] => none
  | c :: rest =>
    if startsName c then some ((c :: rest).takeWhile inName, (c :: rest).dropWhile inName)
    else if c.isDigit && inBraces then
      some ((c :: rest).takeWhile Char.isDigit, (c :: rest).dropWhile Char.isDigit)
    else if c.isDigit || isSpecial c then some ([c], rest)
    else none

/-- What follows the name of a parameter in braces. -/
def modifier? : Bytes → Option Modifier
  | [] => some .value
  | '#' :: '#' :: text => some (.trimStart true text)
  | '#' :: text => some (.trimStart false text)
  | '%' :: '%' :: text => some (.trimEnd true text)
  | '%' :: text => some (.trimEnd false text)
  | ':' :: op :: text => ofOp true op text
  | op :: text => ofOp false op text
where
  /-- A modifier for a missing value, by its sign. -/
  ofOp (orEmpty : Bool) (op : Char) (text : Bytes) : Option Modifier :=
    match op with
    | '-' => some (.orElse orEmpty text)
    | '=' => some (.assign orEmpty text)
    | '?' => some (.orFail orEmpty text)
    | '+' => some (.alternative orEmpty text)
    | _ => none

/-- A parameter in braces. -/
def braced? (inQuotes : Bool) (body : Bytes) : Option Piece :=
  let ordinary := do
    let (name, rest) ← takeName true body
    some (.parameter inQuotes name (← modifier? rest))
  match body with
  | '#' :: rest =>
    match takeName true rest with
    | some (name, []) => some (.parameter inQuotes name .length)
    | _ => ordinary
  | _ => ordinary

/-- What a dollar sign begins, and what follows it. -/
def dollar (inQuotes : Bool) (cs : Bytes) : Except String (Piece × Bytes) :=
  match cs with
  | '(' :: rest =>
    match takeBalanced [] [')'] rest with
    | none => .error "end of file unexpected (expecting \")\")"
    | some (body, after) =>
      if body.head? = some '(' ∧ body.getLast? = some ')' then
        .ok (.arithmetic inQuotes body.tail.dropLast, after)
      else .ok (.command inQuotes body, after)
  | '\x7b' :: rest =>
    match takeBalanced [] ['\x7d'] rest with
    | none => .error "end of file unexpected (expecting \"\x7d\")"
    | some (body, after) =>
      match braced? inQuotes body with
      | some piece => .ok (piece, after)
      | none => .error "Bad substitution"
  | _ =>
    match takeName false cs with
    | some (name, rest) => .ok (.parameter inQuotes name .value, rest)
    | none => .ok (if inQuotes then .quoted ['$'] else .plain ['$'], cs)

/-! ## Words -/

/-- Characters that end a word. -/
def endsWord (c : Char) : Bool := [' ', '\t', '\n', ';', '&', '|', '<', '>', '(', ')'].contains c

/-- Where the pieces of a word stand. -/
inductive Surroundings where
  /-- Between blanks and operators. -/
  | bare
  | doubleQuotes
  /-- In a text of which everything belongs to the word. -/
  | whole
  /-- In such a text between double quotes. -/
  | quotedWhole
  deriving DecidableEq, Repr

/-- Puts a piece in front of others; neighbouring plain texts become one. -/
def glue : Piece → Word → Word
  | .plain a, .plain b :: w => .plain (a ++ b) :: w
  | .quoted a, .quoted b :: w => .quoted (a ++ b) :: w
  | p, w => p :: w

/-- The pieces of a word, and what follows it. Fuel: more than the length of the text. -/
def pieces : Nat → Surroundings → Bytes → Except String (Word × Bytes)
  | 0, _, cs => .ok ([], cs)
  | _ + 1, .doubleQuotes, [] => .error "Unterminated quoted string"
  | _ + 1, _, [] => .ok ([], [])
  | fuel + 1, place, c :: rest =>
    let inQuotes := place == .doubleQuotes || place == .quotedWhole
    let go (p : Piece) (rest : Bytes) : Except String (Word × Bytes) := do
      let (w, after) ← pieces fuel place rest
      return (glue p w, after)
    if c = '$' then do
      let (p, rest) ← dollar inQuotes rest
      go p rest
    else if c = backquote then
      match takeBackquoted rest with
      | none => .error "EOF in backquote substitution"
      | some (script, rest) => go (.command inQuotes script) rest
    else if inQuotes then
      if c = doubleQuote then if place == .doubleQuotes then .ok ([], rest) else pieces fuel place rest
      else if c = backslash then
        match rest with
        | '\n' :: rest => pieces fuel place rest
        | d :: rest =>
          if d = '$' ∨ d = backquote ∨ d = doubleQuote ∨ d = backslash then go (.quoted [d]) rest
          else go (.quoted [c, d]) rest
        | [] => .error "Unterminated quoted string"
      else go (.quoted [c]) rest
    else if place == .bare && endsWord c then .ok ([], c :: rest)
    else if c = backslash then
      match rest with
      | '\n' :: rest => pieces fuel place rest
      | d :: rest => go (.quoted [d]) rest
      | [] => .ok ([.quoted [c]], [])
    else if c = singleQuote then
      match rest.dropWhile (· ≠ singleQuote) with
      | [] => .error "Unterminated quoted string"
      | _ :: after => go (.quoted (rest.takeWhile (· ≠ singleQuote))) after
    else if c = doubleQuote then do
      let (inner, after) ← pieces fuel .doubleQuotes rest
      let (w, rest) ← pieces fuel place after
      return (if inner.isEmpty then .quoted [] :: w else inner ++ w, rest)
    else go (.plain [c]) rest

/-- A text of which everything belongs to one word. -/
def wordOf (text : Bytes) : Except String Word :=
  (pieces (text.length + 1) .whole text).map Prod.fst

/-- A text of which everything belongs to one word in double quotes. -/
def quotedWordOf (text : Bytes) : Except String Word :=
  (pieces (text.length + 1) .quotedWhole text).map Prod.fst

/-! ## Operators -/

/-- The operators, a longer one before those that it begins with. -/
def operators : List String :=
  ["&&", "||", ";;", "<<", ">>", "<&", ">&", "<>", ">|", ";", "&", "|", "<", ">", "(", ")"]

/-- The operator at the start of a text. -/
def operator? (cs : Bytes) : Option String := operators.find? (·.toList.isPrefixOf cs)

/-- The descriptor that a word in front of a redirection names. -/
def descriptor? (w : Word) (rest : Bytes) : Option Nat :=
  match w with
  | [.plain [d]] =>
    if d.isDigit && (rest.head? == some '<' || rest.head? == some '>') then
      some (d.toNat - '0'.toNat)
    else none
  | _ => none

/-- The tokens of a text. `lines` counts the ends of lines in all of it. Fuel: more than its length. -/
def scan (lines : Nat) : Nat → Bytes → List Lexeme
  | 0, _ => [⟨.finish, 1 + lines⟩]
  | _ + 1, [] => [⟨.finish, 1 + lines⟩]
  | fuel + 1, c :: rest =>
    let at_ (after : Bytes) : Nat := 1 + lines - after.count '\n'
    if c = '\n' then ⟨.newline, at_ (c :: rest)⟩ :: scan lines fuel rest
    else if c = ' ' ∨ c = '\t' then scan lines fuel rest
    else if c = backslash ∧ rest.head? = some '\n' then scan lines fuel rest.tail
    else if c = '#' then scan lines fuel (rest.dropWhile (· ≠ '\n'))
    else
      match operator? (c :: rest) with
      | some op => ⟨.operator op, at_ rest⟩ :: scan lines fuel ((c :: rest).drop op.length)
      | none =>
        match pieces (rest.length + 2) .bare (c :: rest) with
        | .error message => [⟨.fault message, 1 + lines⟩]
        | .ok (w, after) =>
          let token := match descriptor? w after with
            | some n => Token.descriptor n
            | none => .word w
          ⟨token, at_ after⟩ :: scan lines fuel after

/-- The tokens of a text. -/
def ofBytes (text : Bytes) : List Lexeme := scan (text.count '\n') (text.length + 1) text

end Token

end Checkout.Shell
