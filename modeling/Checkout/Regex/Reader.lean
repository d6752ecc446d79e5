import Checkout.Number.Numeral
import Checkout.Regex.Size
import Checkout.Text.BinaryProperty
import Checkout.Text.Category
import Checkout.Text.Script
import Checkout.Text.ScriptUse
import Checkout.Text.Age

/-!
# Reading regular expressions

`Regex.ofText?` reads the usual notation: literals, escapes, classes in brackets with set operations,
named properties, groups with flags, alternatives and repetitions. Look-around and back references
are no part of the notation. A reader takes the characters that are left and gives back what it read
and what is then left; nothing stands for any error.
-/

namespace Checkout.Regex

open Text

/-- What the flags in a group say. -/
structure Flags where
  caseless : Bool := false
  lines : Bool := false
  dotAll : Bool := false
  crlf : Bool := false
  unicode : Bool := true
  verbose : Bool := false
  deriving DecidableEq, Repr

/-- Something that one character or one place has to fulfil. -/
inductive Atom where
  | char (c : Char)
  | set (s : CharSet)
  | anchor (a : Anchor)

/-! ## Blanks and comments -/

/-- Leaves out blanks and comments; a comment reaches to the end of its line. -/
def skipBlanks : Bool → List Char → List Char
  | _, [] => []
  | true, c :: rest => skipBlanks (c != '\n') rest
  | false, c :: rest =>
    if isBlank c then skipBlanks false rest
    else if c = '#' then skipBlanks true rest
    else c :: rest

/-- Leaves out what the verbose notation ignores. -/
def skip (f : Flags) (cs : List Char) : List Char :=
  if f.verbose then skipBlanks false cs else cs

/-! ## Character sets -/

/-- The characters that make words. -/
def wordChars (f : Flags) : CharSet :=
  if f.unicode then .ofCodeSet wordSet
  else .unions [.range 0x30 0x39, .range 0x41 0x5A, .single '_', .range 0x61 0x7A]

/-- The decimal digits. -/
def digitChars (f : Flags) : CharSet :=
  if f.unicode then .ofCodeSet digitSet else .range 0x30 0x39

/-- The blank characters. -/
def blankChars (f : Flags) : CharSet :=
  if f.unicode then .blank else .union (.range 0x09 0x0D) (.single ' ')

/-- A set with the characters that differ from its members in case only, where the flags ask. -/
def withCase (f : Flags) (s : CharSet) : CharSet :=
  if !f.caseless then s else if f.unicode then .anyCase s else .anyAsciiCase s

/-- The complement of a set, where `negated` holds. Without the Unicode flag it would hold parts of
characters, unless the set has every code point from 128 to 255. -/
def negate? (f : Flags) (negated : Bool) (s : CharSet) : Option CharSet :=
  if !negated then some s
  else if f.unicode then some (.compl s)
  else if (List.range 128).all fun n => s.contains (n + 128) then
    some (.diff (.range 0 127) s)
  else none

/-- The classes with a name between colons. -/
def asciiClass? : List Char → Option CharSet
  | name =>
    let alpha := [.range 0x41 0x5A, .range 0x61 0x7A]
    let digit := CharSet.range 0x30 0x39
    match String.ofList name with
    | "alnum" => some (.unions (digit :: alpha))
    | "alpha" => some (.unions alpha)
    | "ascii" => some (.range 0 0x7F)
    | "blank" => some (.union (.single '\t') (.single ' '))
    | "cntrl" => some (.union (.range 0 0x1F) (.range 0x7F 0x7F))
    | "digit" => some digit
    | "graph" => some (.range 0x21 0x7E)
    | "lower" => some (.range 0x61 0x7A)
    | "print" => some (.range 0x20 0x7E)
    | "punct" => some (.unions [.range 0x21 0x2F, .range 0x3A 0x40, .range 0x5B 0x60, .range 0x7B 0x7E])
    | "space" => some (.union (.range 0x09 0x0D) (.single ' '))
    | "upper" => some (.range 0x41 0x5A)
    | "word" => some (.unions (.single '_' :: digit :: alpha))
    | "xdigit" => some (.unions [digit, .range 0x41 0x46, .range 0x61 0x66])
    | _ => none

/-- A general category, or one of the names that are treated like categories. -/
def category? (name : String) : Option CharSet :=
  if name = "any" then some .all
  else if name = "ascii" then some (.range 0 0x7F)
  else if name = "assigned" then
    (Property.find? categories "cn").map fun s => .compl (.ofCodeSet s)
  else (Property.find? categories name).map .ofCodeSet

/-- A property by its name alone. Three short names mean categories, not properties. -/
def property? (name : String) : Option CharSet :=
  let own := if name = "cf" ∨ name = "sc" ∨ name = "lc" then none
    else Property.find? binaryProperties name
  match own with
  | some s => some (.ofCodeSet s)
  | none => (category? name).or ((Property.find? scripts name).map .ofCodeSet)

/-- A property by the name of its kind and its value. -/
def valuedProperty? (kind value : String) : Option CharSet :=
  if kind = "generalcategory" ∨ kind = "gc" then category? value
  else if kind = "script" ∨ kind = "sc" then (Property.find? scripts value).map .ofCodeSet
  else if kind = "scriptextensions" ∨ kind = "scx" then
    ((Property.find? scriptUses value).or (Property.find? scripts value)).map .ofCodeSet
  else if kind = "age" then (upToAge? value).map fun sets => .unions (sets.map .ofCodeSet)
  else none

/-- Splits a list at the first place where `mark` stands. -/
def splitAtMark? (mark : List Char) : List Char → Option (List Char × List Char)
  | [] => none
  | c :: rest =>
    if mark.isPrefixOf (c :: rest) then some ([], (c :: rest).drop mark.length)
    else (splitAtMark? mark rest).map fun (a, b) => (c :: a, b)

/-- What stands between the braces of a property. -/
def namedProperty? (content : List Char) : Option CharSet :=
  match splitAtMark? ['!', '='] content with
  | some (k, v) => (valuedProperty? (looseName k) (looseName v)).map .compl
  | none =>
    match (splitAtMark? [':'] content).or (splitAtMark? ['='] content) with
    | some (k, v) => valuedProperty? (looseName k) (looseName v)
    | none => property? (looseName content)

/-- A property after `\p` or `\P`: one letter, or a name in braces that a caret may negate. -/
def readProperty (f : Flags) (negated : Bool) (cs : List Char) : Option (CharSet × List Char) :=
  if !f.unicode then none
  else
    match cs with
    | [] => none
    | '\x7b' :: rest => do
      let (content, after) ← splitAtMark? ['\x7d'] rest
      let (flipped, content) := match content with
        | '^' :: r => (true, r)
        | r => (false, r)
      if content.isEmpty then none
      else
        let s ← namedProperty? content
        let s ← negate? f (negated != flipped) (withCase f s)
        some (s, after)
    | '\\' :: _ => none
    | c :: rest => do
      let s ← category? (looseName [c])
      let s ← negate? f negated (withCase f s)
      some (s, rest)

/-! ## Escapes -/

/-- The character with the number written in hexadecimal digits. -/
def hexChar? (ds : List Char) : Option Char := do
  if ds.isEmpty then none
  else
    let n ← Number.digits? 16 ds
    if n.isValidChar then some (Char.ofNat n) else none

/-- A character by its number: `width` digits, or any number of digits in braces. -/
def readHex (f : Flags) (width : Nat) (cs : List Char) : Option (Char × List Char) :=
  match cs with
  | '\x7b' :: rest => do
    let (ds, after) ← splitAtMark? ['\x7d'] rest
    let ds := if f.verbose then ds.filter (!isBlank ·) else ds
    let c ← hexChar? ds
    some (c, after)
  | _ => do
    let ds := cs.take width
    if ds.length < width then none
    else
      let c ← hexChar? ds
      if !f.unicode ∧ width = 2 ∧ c.toNat ≥ 0x80 then none else some (c, cs.drop width)

/-- An ASCII character that stands for itself behind a backslash. -/
def isEscapable (c : Char) : Bool :=
  c.toNat < 0x80 && !c.isAlphanum && c != '<' && c != '>'

/-- The anchor that stands in braces behind `\b`; without a letter there, the braces mean a
repetition. -/
def readWordBoundary (f : Flags) (cs : List Char) : Option (Anchor × List Char) :=
  let word := wordChars f
  let isNameChar := fun c : Char => c.isAlpha || c == '-'
  match cs with
  | '\x7b' :: rest =>
    match skip f rest with
    | [] => none
    | c :: more =>
      if !isNameChar c then some (.wordBoundary word, cs)
      else
        match splitAtMark? ['\x7d'] (c :: more) with
        | none => none
        | some (name, after) =>
          match String.ofList (if f.verbose then name.filter (!isBlank ·) else name) with
          | "start" => some (.wordStart word, after)
          | "end" => some (.wordEnd word, after)
          | "start-half" => some (.wordStartHalf word, after)
          | "end-half" => some (.wordEndHalf word, after)
          | _ => none
  | _ => some (.wordBoundary word, cs)

/-- What follows a backslash. -/
def readEscape (f : Flags) : List Char → Option (Atom × List Char)
  | [] => none
  | c :: rest =>
    let ofChar (n : Nat) : Option (Atom × List Char) := some (.char (Char.ofNat n), rest)
    let ofSet (negated : Bool) (s : CharSet) : Option (Atom × List Char) :=
      (negate? f negated s).map fun s => (.set s, rest)
    match c with
    | 'x' => (readHex f 2 rest).map fun (c, r) => (.char c, r)
    | 'u' => (readHex f 4 rest).map fun (c, r) => (.char c, r)
    | 'U' => (readHex f 8 rest).map fun (c, r) => (.char c, r)
    | 'p' => (readProperty f false rest).map fun (s, r) => (.set s, r)
    | 'P' => (readProperty f true rest).map fun (s, r) => (.set s, r)
    | 'd' => ofSet false (digitChars f)
    | 'D' => ofSet true (digitChars f)
    | 's' => ofSet false (blankChars f)
    | 'S' => ofSet true (blankChars f)
    | 'w' => ofSet false (wordChars f)
    | 'W' => ofSet true (wordChars f)
    | 'a' => ofChar 0x07
    | 'f' => ofChar 0x0C
    | 't' => ofChar 0x09
    | 'n' => ofChar 0x0A
    | 'r' => ofChar 0x0D
    | 'v' => ofChar 0x0B
    | 'A' => some (.anchor .textStart, rest)
    | 'z' => some (.anchor .textEnd, rest)
    | 'b' => (readWordBoundary f rest).map fun (a, r) => (.anchor a, r)
    | 'B' => some (.anchor (.notWordBoundary (wordChars f)), rest)
    | '<' => some (.anchor (.wordStart (wordChars f)), rest)
    | '>' => some (.anchor (.wordEnd (wordChars f)), rest)
    | c => if isEscapable c then some (.char c, rest) else none

/-! ## Classes in brackets -/

/-- How two sets in brackets are combined. -/
inductive SetOp where
  | inter
  | diff
  | symmDiff
  deriving DecidableEq

/-- Combines what stands left of an operator with what stands right of it. -/
def combine (f : Flags) (left : Option (CharSet × SetOp)) (right : CharSet) : CharSet :=
  let right := withCase f right
  match left with
  | none => right
  | some (l, .inter) => .inter l right
  | some (l, .diff) => .diff l right
  | some (l, .symmDiff) => .symmDiff l right

/-- One character or one named set inside brackets. -/
def readClassItem (f : Flags) : List Char → Option (Atom × List Char)
  | [] => none
  | '\\' :: rest => readEscape f rest
  | c :: rest => if !f.unicode ∧ c.toNat ≥ 0x80 then none else some (.char c, rest)

/-- A single item or a range of characters. -/
def readClassRange (f : Flags) (cs : List Char) : Option (CharSet × List Char) := do
  let (first, rest) ← readClassItem f cs
  let single : Option CharSet := match first with
    | .char c => some (.single c)
    | .set s => some s
    | .anchor _ => none
  let rest := skip f rest
  match rest with
  | [] => none
  | '-' :: more =>
    match skip f more with
    | [] => none
    | ']' :: _ => single.map (·, rest)
    | '-' :: _ => single.map (·, rest)
    | more =>
      let (last, after) ← readClassItem f more
      match first, last with
      | .char a, .char b => if a.toNat ≤ b.toNat then some (.range a.toNat b.toNat, after) else none
      | _, _ => none
  | _ => single.map (·, rest)

/-- A named class between `[:` and `:]`. -/
def readAsciiClass (f : Flags) (cs : List Char) : Option (CharSet × List Char) :=
  match cs with
  | '[' :: ':' :: rest => do
    let (negated, rest) := match rest with
      | '^' :: r => (true, r)
      | r => (false, r)
    let (name, after) ← splitAtMark? [':'] rest
    match after with
    | ']' :: after =>
      let s ← asciiClass? name
      let s := withCase f s
      some (if negated then .compl s else s, after)
    | _ => none
  | _ => none

/-- The hyphens at the start of a class, which stand for themselves. -/
def readHyphens (f : Flags) : Nat → List Char → Nat × List Char
  | 0, cs => (0, cs)
  | fuel + 1, cs =>
    match skip f cs with
    | '-' :: rest =>
      let (n, after) := readHyphens f fuel rest
      (n + 1, after)
    | rest => (0, rest)

/-- What stands after an opening bracket: a caret, hyphens, and a bracket that stands for itself. The
result says whether the class is negated and which characters are in it so far. -/
def readClassStart (f : Flags) (cs : List Char) : Bool × CharSet × List Char :=
  let (negated, cs) := match skip f cs with
    | '^' :: r => (true, r)
    | r => (false, r)
  let (hyphens, rest) := readHyphens f cs.length cs
  if 0 < hyphens then (negated, .single '-', rest)
  else
    match rest with
    | ']' :: r => (negated, .single ']', r)
    | r => (negated, .empty, r)

/-- The rest of a class up to its closing bracket. `left` is the part before the last operator and
`here` what has been collected since. The fuel is the number of characters left. -/
def readClassBody (f : Flags) :
    Nat → Bool → Option (CharSet × SetOp) → CharSet → List Char → Option (CharSet × List Char)
  | 0, _, _, _, _ => none
  | fuel + 1, negated, left, here, cs =>
    let operator (op : SetOp) (rest : List Char) : Option (CharSet × List Char) :=
      readClassBody f fuel negated (some (combine f left here, op)) .empty rest
    match skip f cs with
    | [] => none
    | ']' :: rest => do
      let s ← negate? f negated (withCase f (combine f left here))
      some (s, rest)
    | '&' :: '&' :: rest => operator .inter rest
    | '-' :: '-' :: rest => operator .diff rest
    | '~' :: '~' :: rest => operator .symmDiff rest
    | '[' :: rest =>
      match readAsciiClass f ('[' :: rest) with
      | some (s, after) => readClassBody f fuel negated left (.union here s) after
      | none =>
        let (inner, start, after) := readClassStart f rest
        match readClassBody f fuel inner none start after with
        | some (s, after) => readClassBody f fuel negated left (.union here s) after
        | none => none
    | rest =>
      match readClassRange f rest with
      | some (s, after) => readClassBody f fuel negated left (.union here s) after
      | none => none

/-- A class, after its opening bracket. -/
def readClass (f : Flags) (cs : List Char) : Option (CharSet × List Char) :=
  let (negated, start, rest) := readClassStart f cs
  readClassBody f (rest.length + 1) negated none start rest

/-! ## Flags and groups -/

/-- Sets the flag that a letter stands for. -/
def Flags.set? (f : Flags) (letter : Char) (value : Bool) : Option Flags :=
  match letter with
  | 'i' => some { f with caseless := value }
  | 'm' => some { f with lines := value }
  | 's' => some { f with dotAll := value }
  | 'R' => some { f with crlf := value }
  | 'u' => some { f with unicode := value }
  | 'x' => some { f with verbose := value }
  | 'U' => some f
  | _ => none

/-- Reads flags up to a colon or a closing parenthesis, which is left. Every letter may stand once,
and so may the hyphen, but not at the end. -/
def readFlags (f : Flags) (seen : List Char) (last : Option Char) :
    List Char → Option (Flags × List Char × List Char)
  | [] => none
  | c :: rest =>
    if c = ':' ∨ c = ')' then
      if last = some '-' then none else some (f, seen, c :: rest)
    else if seen.contains c then none
    else if c = '-' then readFlags f (c :: seen) (some c) rest
    else
      match f.set? c (!seen.contains '-') with
      | some f => readFlags f (c :: seen) (some c) rest
      | none => none

/-- A character that a group's name may begin with. -/
def isNameStart (c : Char) : Bool :=
  c == '_' || c.isAlpha || (c.toNat ≥ 0x80 && (CharSet.ofCodeSet wordSet).has c &&
    !(CharSet.ofCodeSet digitSet).has c)

/-- A character that a group's name may go on with. -/
def isNameRest (c : Char) : Bool :=
  isNameStart c || c.isDigit || (CharSet.ofCodeSet digitSet).has c || c == '.' || c == '[' || c == ']'

/-- The name of a group, up to its closing angle bracket. -/
def readName (cs : List Char) : Option (String × List Char) := do
  let (name, after) ← splitAtMark? ['>'] cs
  match name with
  | [] => none
  | c :: rest => if isNameStart c && rest.all isNameRest then some (String.ofList name, after) else none

/-- How a group begins. -/
inductive GroupStart where
  /-- Flags for the rest of the enclosing group. -/
  | flags (f : Flags)
  /-- A group with flags of its own. -/
  | group (f : Flags) (name : Option String)

/-- What stands after an opening parenthesis. -/
def readGroupStart (f : Flags) (cs : List Char) : Option (GroupStart × List Char) :=
  match skip f cs with
  | '?' :: 'P' :: '<' :: rest => (readName rest).map fun (n, r) => (.group f (some n), r)
  | '?' :: '=' :: _ => none
  | '?' :: '!' :: _ => none
  | '?' :: '<' :: '=' :: _ => none
  | '?' :: '<' :: '!' :: _ => none
  | '?' :: '<' :: rest => (readName rest).map fun (n, r) => (.group f (some n), r)
  | '?' :: rest => do
    let (f', seen, after) ← readFlags f [] none rest
    match after with
    | ')' :: after => if seen.isEmpty then none else some (.flags f', after)
    | _ :: after => some (.group f' none, after)
    | [] => none
  | rest => some (.group f none, rest)

/-! ## Repetitions -/

/-- A decimal number between blanks. It must fit 32 bits. -/
def readCount (cs : List Char) : Option (Nat × List Char) :=
  let cs := cs.dropWhile isBlank
  let ds := cs.takeWhile Char.isDigit
  let n := Number.ofDigits ds
  if ds.isEmpty ∨ 0xFFFFFFFF < n then none
  else some (n, (cs.dropWhile Char.isDigit).dropWhile isBlank)

/-- A repetition in braces, after the opening one. -/
def readBounds (f : Flags) (cs : List Char) : Option ((Nat × Option Nat) × List Char) := do
  let (low, rest) ← readCount (skip f cs)
  match rest with
  | '\x7d' :: after => some ((low, some low), after)
  | ',' :: rest =>
    match skip f rest with
    | '\x7d' :: after => some ((low, none), after)
    | rest =>
      let (high, rest) ← readCount rest
      match rest with
      | '\x7d' :: after => if low ≤ high then some ((low, some high), after) else none
      | _ => none
  | _ => none

/-- Leaves out the mark that makes a repetition prefer few rounds. -/
def skipLazy : List Char → List Char
  | '?' :: rest => rest
  | cs => cs

/-! ## Expressions -/

/-- An expression with the depth of its nesting. Only repeatable pieces may be repeated: a setting of
flags is none. -/
structure Piece where
  expr : Regex
  depth : Nat
  repeatable : Bool

/-- A sequence of pieces, given last one first. -/
def joinPieces (pieces : List Piece) : Piece :=
  match pieces with
  | [] => ⟨.empty, 0, true⟩
  | [p] => p
  | ps => ⟨seqs (ps.reverse.map (·.expr)), 1 + ps.foldl (fun d p => max d p.depth) 0, true⟩

/-- Alternatives, given last one first. -/
def joinAlternatives (pieces : List Piece) : Piece :=
  match pieces with
  | [] => ⟨.empty, 0, true⟩
  | [p] => p
  | ps => ⟨alts (ps.reverse.map (·.expr)), 1 + ps.foldl (fun d p => max d p.depth) 0, true⟩

/-- The expression for an atom. -/
def ofAtom (f : Flags) : Atom → Regex
  | .char c => .one (withCase f (.single c))
  | .set s => .one s
  | .anchor a => .anchor a

/-- The expression for a point; without the Unicode flag it would match parts of characters. -/
def anyChar? (f : Flags) : Option Regex :=
  if !f.unicode then none
  else if f.dotAll then some (.one .all)
  else if f.crlf then some (.one (.compl (.union (.single '\n') (.single '\r'))))
  else some (.one (.compl (.single '\n')))

/-- The place that a caret means. -/
def caret (f : Flags) : Anchor :=
  if !f.lines then .textStart else if f.crlf then .crlfLineStart else .lineStart

/-- The place that a dollar sign means. -/
def dollar (f : Flags) : Anchor :=
  if !f.lines then .textEnd else if f.crlf then .crlfLineEnd else .lineEnd

/-- Repeats the last piece. -/
def repeatLast (low : Nat) (high : Option Nat) : List Piece → Option (List Piece)
  | p :: rest =>
    if p.repeatable then some (⟨.between low high p.expr, p.depth + 1, true⟩ :: rest) else none
  | [] => none

/-- Reads alternatives up to the end or a closing parenthesis, which is left. `done` are the finished
alternatives and `pieces` those of the present one, both last one first; `names` are the names of the
groups so far. The fuel is larger than the number of characters left. -/
def readAlternatives : Nat → Flags → List String → List Piece → List Piece → List Char →
    Option (Piece × List String × List Char)
  | 0, _, _, _, _, _ => none
  | fuel + 1, f, names, done, pieces, cs =>
    let finish (rest : List Char) : Option (Piece × List String × List Char) :=
      some (joinAlternatives (joinPieces pieces :: done), names, rest)
    let add (e : Regex) (rest : List Char) : Option (Piece × List String × List Char) :=
      readAlternatives fuel f names done (⟨e, 0, true⟩ :: pieces) rest
    let again (low : Nat) (high : Option Nat) (rest : List Char) :
        Option (Piece × List String × List Char) :=
      match repeatLast low high pieces with
      | some pieces => readAlternatives fuel f names done pieces (skipLazy rest)
      | none => none
    match skip f cs with
    | [] => finish []
    | ')' :: rest => finish (')' :: rest)
    | '|' :: rest => readAlternatives fuel f names (joinPieces pieces :: done) [] rest
    | '*' :: rest => again 0 none rest
    | '+' :: rest => again 1 none rest
    | '?' :: rest => again 0 (some 1) rest
    | '\x7b' :: rest =>
      match readBounds f rest with
      | some ((low, high), rest) => again low high (skip f rest)
      | none => none
    | '.' :: rest =>
      match anyChar? f with
      | some e => add e rest
      | none => none
    | '^' :: rest => add (.anchor (caret f)) rest
    | '$' :: rest => add (.anchor (dollar f)) rest
    | '\\' :: rest =>
      match readEscape f rest with
      | some (a, rest) => add (ofAtom f a) rest
      | none => none
    | '[' :: rest =>
      match readClass f rest with
      | some (s, rest) => add (.one s) rest
      | none => none
    | '(' :: rest =>
      match readGroupStart f rest with
      | none => none
      | some (.flags f', rest) =>
        readAlternatives fuel f' names done (⟨.empty, 0, false⟩ :: pieces) rest
      | some (.group f' name, rest) =>
        if name.any names.contains then none
        else
          match readAlternatives fuel f' (name.toList ++ names) [] [] rest with
          | some (p, names, ')' :: rest) =>
            readAlternatives fuel f names done (⟨p.expr, p.depth + 1, true⟩ :: pieces) rest
          | _ => none
    | c :: rest => add (ofAtom f (.char c)) rest

/-- Reads a regular expression. It must be well formed to its end, not too deep and not too large. -/
def ofText? (text : String) : Option Regex :=
  match readAlternatives (text.length + 1) {} [] [] [] text.toList with
  | some (p, _, []) => if p.depth ≤ maxDepth ∧ p.expr.weight ≤ maxWeight then some p.expr else none
  | _ => none

end Checkout.Regex
