import Checkout.Number.Numeral
import Checkout.Shell.Basic

/-!
# Arithmetic

Expressions over integers of 64 bits, which wrap around. Operators bind as in most languages;
`levels` lists them from the loosest to the tightest.
-/

namespace Checkout.Shell.Arithmetic

/-- An operator with two operands. -/
inductive Op where
  | or | and | bitOr | bitXor | bitAnd | eq | ne | le | ge | lt | gt | shl | shr | add | sub | mul
  | div | rem
  deriving DecidableEq, Repr

/-- An expression. -/
inductive Expr where
  | number (n : Int)
  | variable (name : Bytes)
  | negative (e : Expr)
  | not (e : Expr)
  | complement (e : Expr)
  | binary (op : Op) (a b : Expr)
  | choice (c a b : Expr)
  /-- Sets a variable, perhaps to its value combined with another one. -/
  | assign (name : Bytes) (op : Option Op) (e : Expr)
  deriving Repr

/-- Why an expression has no value. -/
inductive Fault where
  /-- An operand is missing. -/
  | unreadable
  /-- Something follows that does not belong to the expression. -/
  | unfinished
  | divisionByZero
  | notNumber (text : Bytes)
  deriving DecidableEq, Repr

/-! ## Reading -/

/-- Operators with their signs, from the loosest level to the tightest. -/
def levels : List (List (String × Op)) :=
  [[("||", .or)], [("&&", .and)], [("|", .bitOr)], [("^", .bitXor)], [("&", .bitAnd)],
    [("==", .eq), ("!=", .ne)], [("<=", .le), (">=", .ge), ("<", .lt), (">", .gt)],
    [("<<", .shl), (">>", .shr)], [("+", .add), ("-", .sub)], [("*", .mul), ("/", .div), ("%", .rem)]]

def skipBlanks (cs : Bytes) : Bytes := cs.dropWhile fun c => c == ' ' || c == '\t' || c == '\n'

/-- Signs that look like others with a character more. A sign is not one of these if what follows
would make it longer. -/
def continues (sign : String) (rest : Bytes) : Bool :=
  match sign, rest.head? with
  | "|", some '|' | "&", some '&' | "<", some '<' | ">", some '>' => true
  | "|", some '=' | "&", some '=' | "^", some '=' | "+", some '=' | "-", some '=' | "*", some '='
  | "/", some '=' | "%", some '=' | "<<", some '=' | ">>", some '=' => true
  | _, _ => false

/-- The operator of a level at the start of a text, and what follows it. -/
def operator? (level : List (String × Op)) (cs : Bytes) : Option (Op × Bytes) :=
  (level.find? fun (sign, _) =>
      sign.toList.isPrefixOf cs && !continues sign (cs.drop sign.length)).map
    fun (sign, op) => (op, cs.drop sign.length)

/-- The signs of assignments. -/
def assignments : List (String × Option Op) :=
  [("<<=", some .shl), (">>=", some .shr), ("+=", some .add), ("-=", some .sub), ("*=", some .mul),
    ("/=", some .div), ("%=", some .rem), ("&=", some .bitAnd), ("^=", some .bitXor),
    ("|=", some .bitOr), ("=", none)]

/-- The sign of an assignment at the start of a text. -/
def assignment? (cs : Bytes) : Option (Option Op × Bytes) :=
  if "==".toList.isPrefixOf cs then none
  else
    (assignments.find? fun (sign, _) => sign.toList.isPrefixOf cs).map
      fun (sign, op) => (op, cs.drop sign.length)

/-- A number: decimal, octal after a zero, hexadecimal after `0x`. -/
def number? (cs : Bytes) : Option Nat :=
  match cs with
  | [] => none
  | '0' :: 'x' :: ds | '0' :: 'X' :: ds => if ds.isEmpty then none else Number.digits? 16 ds
  | '0' :: ds => Number.digits? 8 ds
  | ds => Number.digits? 10 ds

mutual

/-- Assignments and choices. -/
def expression : Nat → Bytes → Option (Expr × Bytes)
  | 0, _ => none
  | fuel + 1, cs => do
    let cs := skipBlanks cs
    let name := cs.takeWhile fun c => c.isAlphanum || c == '_'
    let after := skipBlanks (cs.drop name.length)
    match if name.head?.any (!·.isDigit) then assignment? after else none with
    | some (op, rest) =>
      let (e, rest) ← expression fuel rest
      some (.assign name op e, rest)
    | none =>
      let (c, rest) ← binaries fuel levels cs
      match skipBlanks rest with
      | '?' :: rest => do
        let (a, rest) ← expression fuel rest
        match skipBlanks rest with
        | ':' :: rest => do
          let (b, rest) ← expression fuel rest
          some (.choice c a b, rest)
        | _ => none
      | rest => some (c, rest)

/-- Operands joined by the operators of the given levels. -/
def binaries : Nat → List (List (String × Op)) → Bytes → Option (Expr × Bytes)
  | 0, _, _ => none
  | fuel + 1, [], cs => unary fuel cs
  | fuel + 1, level :: tighter, cs => do
    let (a, rest) ← binaries fuel tighter cs
    binariesRest fuel level tighter a rest

/-- What is joined to an operand, from left to right. -/
def binariesRest : Nat → List (String × Op) → List (List (String × Op)) → Expr → Bytes →
    Option (Expr × Bytes)
  | 0, _, _, _, _ => none
  | fuel + 1, level, tighter, a, cs =>
    match operator? level (skipBlanks cs) with
    | none => some (a, cs)
    | some (op, rest) => do
      let (b, rest) ← binaries fuel tighter rest
      binariesRest fuel level tighter (.binary op a b) rest

/-- An operand with signs in front. -/
def unary : Nat → Bytes → Option (Expr × Bytes)
  | 0, _ => none
  | fuel + 1, cs =>
    match skipBlanks cs with
    | '-' :: rest => (unary fuel rest).map fun (e, rest) => (.negative e, rest)
    | '+' :: rest => unary fuel rest
    | '!' :: rest => (unary fuel rest).map fun (e, rest) => (.not e, rest)
    | '~' :: rest => (unary fuel rest).map fun (e, rest) => (.complement e, rest)
    | '(' :: rest => do
      let (e, rest) ← expression fuel rest
      match skipBlanks rest with
      | ')' :: rest => some (e, rest)
      | _ => none
    | cs =>
      let word := cs.takeWhile fun c => c.isAlphanum || c == '_'
      let rest := cs.drop word.length
      match word with
      | [] => none
      | c :: _ =>
        if c.isDigit then (number? word).map fun n => (.number n, rest)
        else some (.variable word, rest)

end

/-- Reads all of a text as an expression; an empty text means zero. -/
def read (text : Bytes) : Except Fault Expr :=
  if (skipBlanks text).isEmpty then .ok (.number 0)
  else
    match expression (16 * text.length + 32) text with
    | some (e, rest) => if (skipBlanks rest).isEmpty then .ok e else .error .unfinished
    | none => .error .unreadable

/-! ## Values -/

/-- The integer of 64 bits that an integer wraps around to. -/
def wrap (n : Int) : Int := n.bmod 0x10000000000000000

def ofBool (b : Bool) : Int := if b then 1 else 0

/-- Applies a function of 64 bits to two integers. -/
def bitwise (f : BitVec 64 → BitVec 64 → BitVec 64) (a b : Int) : Int :=
  (f (BitVec.ofInt 64 a) (BitVec.ofInt 64 b)).toInt

/-- The value of an operator. -/
def apply (op : Op) (a b : Int) : Except Fault Int :=
  match op with
  | .or => .ok (ofBool (a != 0 || b != 0))
  | .and => .ok (ofBool (a != 0 && b != 0))
  | .bitOr => .ok (bitwise (· ||| ·) a b)
  | .bitXor => .ok (bitwise (· ^^^ ·) a b)
  | .bitAnd => .ok (bitwise (· &&& ·) a b)
  | .eq => .ok (ofBool (a == b))
  | .ne => .ok (ofBool (a != b))
  | .le => .ok (ofBool (a ≤ b))
  | .ge => .ok (ofBool (b ≤ a))
  | .lt => .ok (ofBool (a < b))
  | .gt => .ok (ofBool (b < a))
  | .shl => .ok (wrap (a <<< (b.emod 64).toNat))
  | .shr => .ok (a >>> (b.emod 64).toNat)
  | .add => .ok (wrap (a + b))
  | .sub => .ok (wrap (a - b))
  | .mul => .ok (wrap (a * b))
  | .div => if b = 0 then .error .divisionByZero else .ok (wrap (a.tdiv b))
  | .rem => if b = 0 then .error .divisionByZero else .ok (a.tmod b)

/-- Variables with their texts. -/
abbrev Variables := List (Bytes × Bytes)

/-- The number that the text of a variable means; no text means zero. -/
def valueOf (vars : Variables) (name : Bytes) : Except Fault Int :=
  match vars.lookup name with
  | none => .ok 0
  | some [] => .ok 0
  | some ('-' :: ds) => ((number? ds).map fun n => -(n : Int)).elim (.error (.notNumber ('-' :: ds))) .ok
  | some ds => ((number? ds).map Int.ofNat).elim (.error (.notNumber ds)) .ok

/-- The value of an expression, and the variables after its assignments. The right operand of `&&` and
`||` and the branch that is not chosen are left alone. -/
def eval (vars : Variables) : Expr → Except Fault (Int × Variables)
  | .number n => .ok (wrap n, vars)
  | .variable name => do return (← valueOf vars name, vars)
  | .negative e => do
    let (n, vars) ← eval vars e
    return (wrap (-n), vars)
  | .not e => do
    let (n, vars) ← eval vars e
    return (ofBool (n == 0), vars)
  | .complement e => do
    let (n, vars) ← eval vars e
    return (-n - 1, vars)
  | .binary op a b => do
    let (x, vars) ← eval vars a
    if op = .or ∧ x ≠ 0 then return (1, vars)
    if op = .and ∧ x = 0 then return (0, vars)
    let (y, vars) ← eval vars b
    return (← apply op x y, vars)
  | .choice c a b => do
    let (n, vars) ← eval vars c
    if n ≠ 0 then eval vars a else eval vars b
  | .assign name op e => do
    let (n, vars) ← eval vars e
    let n ← match op with
      | none => pure n
      | some op => apply op (← valueOf vars name) n
    return (n, (name, Bytes.ofInt n) :: vars.filter (·.1 ≠ name))

/-- What is said about an expression without a value. -/
def Fault.message (text : Bytes) : Fault → Bytes
  | .unreadable =>
    "arithmetic expression: expecting primary: \"".toList ++ text ++ "\"".toList
  | .unfinished =>
    "arithmetic expression: expecting EOF: \"".toList ++ text ++ "\"".toList
  | .divisionByZero =>
    "arithmetic expression: division by zero: \"".toList ++ text ++ "\"".toList
  | .notNumber t => "Illegal number: ".toList ++ t

end Checkout.Shell.Arithmetic
