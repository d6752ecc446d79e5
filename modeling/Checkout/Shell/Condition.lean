import Checkout.FileSystem.Operations
import Checkout.Shell.Arithmetic

/-!
# Conditions

What `test` and square brackets decide: texts and numbers are compared, files are looked for.
-/

namespace Checkout.Shell.Condition

/-- Why a condition cannot be decided. -/
inductive Fault where
  | notNumber (text : Bytes)
  | unexpected (text : Bytes)
  | missingArgument
  deriving DecidableEq, Repr

def Fault.message : Fault → Bytes
  | .notNumber t => "Illegal number: ".toList ++ t
  | .unexpected t => t ++ ": unexpected operator".toList
  | .missingArgument => "argument expected".toList

/-- The entry that a path name leads to, without following a link at its end if told so. -/
def entryOf (fs : FileSystem) (here : Location) (follow : Bool) (path : Bytes) : Option Entry :=
  match fs.resolve here follow path.toByteString with
  | .ok (.entry _ e) => some e
  | _ => none

/-- Whether an entry has one of some permission bits. -/
def hasMode (bits : Nat) : Entry → Bool
  | .file _ mode => mode &&& bits != 0
  | .dir mode => mode &&& bits != 0
  | _ => true

/-- The value of an operator with one operand. -/
def unary? (fs : FileSystem) (here : Location) (op : String) (a : Bytes) : Option Bool :=
  let entry := entryOf fs here true a
  match op with
  | "-n" => some !a.isEmpty
  | "-z" => some a.isEmpty
  | "-e" => some entry.isSome
  | "-f" => some (entry.any Entry.isFile)
  | "-d" => some (entry.any Entry.isDir)
  | "-h" | "-L" => some ((entryOf fs here false a).any Entry.isLink)
  | "-r" => some entry.isSome
  | "-w" => some entry.isSome
  | "-x" => some (entry.any (hasMode 0o111))
  | "-s" => some (entry.any fun e =>
      match e with
      | .file content _ => !content.isEmpty
      | .dir _ => true
      | _ => false)
  | "-p" | "-S" | "-b" | "-t" => some false
  | "-c" => some (entry.any (· == .device))
  | _ => none

/-- The number that an operand is. -/
def number (t : Bytes) : Except Fault Int :=
  let bare := (t.dropWhile (· == ' ')).reverse.dropWhile (· == ' ') |>.reverse
  let value? := match bare with
    | '-' :: ds => if ds.isEmpty then none else (Number.digits? 10 ds).map fun n => -(n : Int)
    | '+' :: ds => if ds.isEmpty then none else (Number.digits? 10 ds).map Int.ofNat
    | ds => if ds.isEmpty then none else (Number.digits? 10 ds).map Int.ofNat
  value?.elim (.error (.notNumber t)) .ok

/-- The value of an operator with two operands, if it is one. -/
def binary? (op : String) (a b : Bytes) : Option (Except Fault Bool) :=
  let numeric (p : Int → Int → Bool) : Option (Except Fault Bool) := some do
    let x ← number a
    let y ← number b
    return p x y
  match op with
  | "=" | "==" => some (.ok (a == b))
  | "!=" => some (.ok (a != b))
  | "<" => some (.ok (decide (a < b)))
  | ">" => some (.ok (decide (b < a)))
  | "-eq" => numeric (· == ·)
  | "-ne" => numeric (· != ·)
  | "-lt" => numeric (· < ·)
  | "-le" => numeric (· ≤ ·)
  | "-gt" => numeric (· > ·)
  | "-ge" => numeric (· ≥ ·)
  | _ => none

mutual

/-- Conditions joined by `-o`, and what follows. -/
def anyOf (fs : FileSystem) (here : Location) : Nat → List Bytes → Except Fault (Bool × List Bytes)
  | 0, _ => .error .missingArgument
  | fuel + 1, args => do
    let (a, rest) ← allOf fs here fuel args
    match rest with
    | ['-', 'o'] :: rest =>
      let (b, rest) ← anyOf fs here fuel rest
      return (a || b, rest)
    | rest => return (a, rest)

/-- Conditions joined by `-a`, and what follows. -/
def allOf (fs : FileSystem) (here : Location) : Nat → List Bytes → Except Fault (Bool × List Bytes)
  | 0, _ => .error .missingArgument
  | fuel + 1, args => do
    let (a, rest) ← primary fs here fuel args
    match rest with
    | ['-', 'a'] :: rest =>
      let (b, rest) ← allOf fs here fuel rest
      return (a && b, rest)
    | rest => return (a, rest)

/-- One condition, and what follows. -/
def primary (fs : FileSystem) (here : Location) : Nat → List Bytes → Except Fault (Bool × List Bytes)
  | 0, _ => .error .missingArgument
  | fuel + 1, args =>
    match args with
    | [] => .error .missingArgument
    | [a] => .ok (!a.isEmpty, [])
    | a :: rest =>
      let simple : Except Fault (Bool × List Bytes) :=
        match rest with
        | op :: b :: after =>
          match binary? (Bytes.toString op) a b with
          | some value => value.map (·, after)
          | none => alone fs here fuel a rest
        | _ => alone fs here fuel a rest
      simple

/-- A condition that begins with no comparison, and what follows. -/
def alone (fs : FileSystem) (here : Location) :
    Nat → Bytes → List Bytes → Except Fault (Bool × List Bytes)
  | 0, _, _ => .error .missingArgument
  | fuel + 1, a, rest =>
    if a = ['!'] then do
      let (value, rest) ← primary fs here fuel rest
      return (!value, rest)
    else if a = ['('] then do
      let (value, rest) ← anyOf fs here fuel rest
      match rest with
      | [')'] :: rest => return (value, rest)
      | _ => throw .missingArgument
    else
      match rest with
      | b :: after =>
        match unary? fs here (Bytes.toString a) b with
        | some value => .ok (value, after)
        | none => .ok (!a.isEmpty, rest)
      | [] => .ok (!a.isEmpty, rest)

end

/-- The value of a condition. None at all is false. -/
def eval (fs : FileSystem) (here : Location) (args : List Bytes) : Except Fault Bool :=
  if args.isEmpty then .ok false
  else do
    let (value, rest) ← anyOf fs here (4 * args.length + 4) args
    match rest with
    | [] => return value
    | t :: _ => throw (.unexpected t)

end Checkout.Shell.Condition
