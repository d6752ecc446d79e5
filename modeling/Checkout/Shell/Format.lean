import Checkout.Shell.Arithmetic

/-!
# Formats

What `printf` makes of a format with arguments, and `echo` of its arguments. The format is used again
as long as it uses up arguments.
-/

namespace Checkout.Shell.Format

def backslash : Char := '\x5c'

/-- The byte that octal digits name. -/
def octalByte (ds : Bytes) : Char := Char.ofNat (Number.ofOctal ds % 256)

/-- The character for a letter behind a backslash. -/
def letter? (c : Char) : Option Char :=
  match c with
  | 'a' => some '\x07'
  | 'b' => some '\x08'
  | 'f' => some '\x0c'
  | 'n' => some '\n'
  | 'r' => some '\r'
  | 't' => some '\t'
  | 'v' => some '\x0b'
  | _ => if c = backslash then some backslash else none

/-- The octal digits at the start of a text, at most so many. -/
def octalDigits (most : Nat) (cs : Bytes) : Bytes :=
  (cs.take most).takeWhile fun c => '0' ≤ c && c ≤ '7'

/-- What a backslash in a format stands for, and what follows. -/
def formatEscape (cs : Bytes) : Bytes × Bytes :=
  match cs with
  | [] => ([backslash], [])
  | c :: rest =>
    match letter? c with
    | some d => ([d], rest)
    | none =>
      let ds := octalDigits 3 cs
      if ds.isEmpty then ([backslash, c], rest) else ([octalByte ds], cs.drop ds.length)

/-- A text with its backslashes replaced, and whether one of them ends the output. An octal number
begins with a zero. Fuel: more than the length of the text. -/
def unescape : Nat → Bytes → Bytes × Bool
  | 0, _ => ([], false)
  | _ + 1, [] => ([], false)
  | fuel + 1, c :: rest =>
    if c ≠ backslash then
      let (t, stopped) := unescape fuel rest
      (c :: t, stopped)
    else
      match rest with
      | [] => ([c], false)
      | 'c' :: _ => ([], true)
      | '0' :: digits =>
        let ds := octalDigits 3 digits
        let (t, stopped) := unescape fuel (digits.drop ds.length)
        (octalByte ds :: t, stopped)
      | d :: after =>
        let (t, stopped) := unescape fuel after
        match letter? d with
        | some e => (e :: t, stopped)
        | none => (c :: d :: t, stopped)

/-- A conversion: how it is filled up, its width and precision, and its letter. -/
structure Conversion where
  left : Bool
  zeros : Bool
  plus : Bool
  blank : Bool
  alternate : Bool
  width : Nat
  precision : Option Nat
  letter : Char

/-- What has been printed, what is left of the arguments, what is wrong with them, and whether an
argument ended the output. -/
structure Progress where
  printed : Bytes
  args : List Bytes
  faults : List Bytes
  stopped : Bool

/-- Fills a text up to a width. -/
def fill (c : Conversion) (text : Bytes) : Bytes :=
  let room := c.width - text.length
  if c.left then text ++ List.replicate room ' ' else List.replicate room ' ' ++ text

/-- A number with its sign, filled up with zeros where that is asked for. -/
def number (c : Conversion) (sign digits : Bytes) : Bytes :=
  let digits := List.replicate (c.precision.getD 1 - digits.length) '0' ++ digits
  let digits := if c.precision = some 0 ∧ digits = ['0'] then [] else digits
  if c.zeros ∧ ¬c.left ∧ c.precision.isNone then
    sign ++ List.replicate (c.width - sign.length - digits.length) '0' ++ digits
  else fill c (sign ++ digits)

/-- The integer that an argument means, and whether it means one. A quote stands for the number of the
character behind it. -/
def integer (arg : Bytes) : Int × Bool :=
  match arg with
  | [] => (0, true)
  | '\x27' :: c :: _ | '\x22' :: c :: _ => (c.toNat, true)
  | _ =>
    let (negative, ds) := match arg.dropWhile (· == ' ') with
      | '-' :: ds => (true, ds)
      | '+' :: ds => (false, ds)
      | ds => (false, ds)
    let sign (n : Nat) : Int := if negative then -(n : Int) else n
    match Arithmetic.number? ds with
    | some n => (sign n, true)
    | none =>
      let front := ds.takeWhile Char.isDigit
      (sign ((Arithmetic.number? front).getD 0), false)

/-- A text in capitals. -/
def capitals (t : Bytes) : Bytes := t.map Char.toUpper

/-- Prints one argument. -/
def convert (c : Conversion) (p : Progress) : Progress :=
  let arg := p.args.headD []
  let rest := { p with args := p.args.tail }
  let cut (t : Bytes) : Bytes := match c.precision with
    | some n => t.take n
    | none => t
  let add (t : Bytes) : Progress := { rest with printed := p.printed ++ t }
  match c.letter with
  | 's' => add (fill c (cut arg))
  | 'c' => add (fill c (arg.take 1))
  | 'b' =>
    let (t, stopped) := unescape (arg.length + 1) arg
    { add (fill c (cut t)) with stopped := stopped }
  | letter =>
    let (n, isNumber) := integer arg
    let done :=
      if letter = 'd' ∨ letter = 'i' then
        let sign : Bytes := if n < 0 then ['-'] else if c.plus then ['+'] else if c.blank then [' '] else []
        add (number c sign (Number.decimal n.natAbs))
      else
        let n := (n.emod 0x10000000000000000).toNat
        match letter with
        | 'o' => add (number c [] ((if c.alternate then ['0'] else []) ++ Nat.toDigits 8 n))
        | 'x' => add (number c (if c.alternate ∧ n ≠ 0 then "0x".toList else []) (Nat.toDigits 16 n))
        | 'X' =>
          add (number c (if c.alternate ∧ n ≠ 0 then "0X".toList else []) (capitals (Nat.toDigits 16 n)))
        | _ => add (number c [] (Number.decimal n))
    if isNumber then done
    else { done with faults := p.faults ++ [arg ++ ": expected numeric value".toList] }

/-- A natural number in a conversion, by its digits or by an argument where a star stands. -/
def count (args : List Bytes) (cs : Bytes) : Int × List Bytes × Bytes :=
  match cs with
  | '*' :: rest => ((integer (args.headD [])).1, args.tail, rest)
  | cs => (Number.ofDigits (cs.takeWhile Char.isDigit), args, cs.dropWhile Char.isDigit)

/-- The conversion behind a percent sign, what is left of the arguments, and what follows. -/
def conversion? (args : List Bytes) (cs : Bytes) : Option (Conversion × List Bytes × Bytes) :=
  let flags := cs.takeWhile fun c => ['-', '0', '+', ' ', '#'].contains c
  let (width, args, rest) := count args (cs.drop flags.length)
  let (precision, args, rest) := match rest with
    | '.' :: rest =>
      let (n, args, rest) := count args rest
      (if n < 0 then none else some n.toNat, args, rest)
    | rest => (none, args, rest)
  match rest with
  | [] => none
  | letter :: rest =>
    if ['s', 'c', 'b', 'd', 'i', 'o', 'u', 'x', 'X'].contains letter then
      some (⟨flags.contains '-' || width < 0, flags.contains '0', flags.contains '+',
        flags.contains ' ', flags.contains '#', width.natAbs, precision, letter⟩, args, rest)
    else none

/-- Prints a format once. Fuel: more than its length. -/
def once : Nat → Bytes → Progress → Progress
  | 0, _, p => p
  | _ + 1, [], p => p
  | fuel + 1, c :: rest, p =>
    if p.stopped then p
    else if c = '%' then
      match rest with
      | '%' :: rest => once fuel rest { p with printed := p.printed ++ ['%'] }
      | rest =>
        match conversion? p.args rest with
        | some (conversion, args, rest) => once fuel rest (convert conversion { p with args := args })
        | none =>
          { p with faults := p.faults ++ ["%".toList ++ rest ++ ": invalid directive".toList], stopped := true }
    else if c = backslash then
      let (t, rest) := formatEscape rest
      once fuel rest { p with printed := p.printed ++ t }
    else once fuel rest { p with printed := p.printed ++ [c] }

/-- Prints a format again as long as arguments are left and it uses some up. Fuel: the number of
arguments. -/
def again (format : Bytes) : Nat → Progress → Progress
  | 0, p => p
  | fuel + 1, p =>
    let q := once (format.length + 1) format p
    if q.stopped ∨ q.args.isEmpty ∨ q.args.length = p.args.length then q else again format fuel q

/-- Prints arguments in a format: the text, and what is wrong with the arguments. -/
def printed (format : Bytes) (args : List Bytes) : Bytes × List Bytes :=
  let p := again format (args.length + 1) ⟨[], args, [], false⟩
  (p.printed, p.faults)

/-- The arguments with blanks between them and an end of line, which `-n` or a backslash with a `c`
leaves out. -/
def echoed (args : List Bytes) : Bytes :=
  let (bare, args) := match args with
    | ['-', 'n'] :: rest => (true, rest)
    | args => (false, args)
  let text := [' '].intercalate args
  let (t, stopped) := unescape (text.length + 1) text
  if bare || stopped then t else t ++ ['\n']

end Checkout.Shell.Format
