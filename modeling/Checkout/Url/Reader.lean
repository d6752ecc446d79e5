import Checkout.Url.Basic

/-!
# Reading URLs

`Url.ofText` reads an absolute URL. Blanks around it and line breaks inside it are left out. The
reader then follows the parts: scheme, user and password, host, port, path, query, fragment. A
special scheme needs a host, and in it any number of slashes of either kind begins the authority.
-/

namespace Checkout.Url

/-- The characters that count: no blanks and controls at the ends, no tabs and line breaks inside. -/
def clean (cs : List Char) : List Char :=
  let isEdge := fun c : Char => c.toNat ≤ 0x20
  ((cs.dropWhile isEdge).reverse.dropWhile isEdge).reverse.filter
    fun c => !(c == '\t' || c == '\n' || c == '\r')

/-- A character that separates the parts of a path. -/
def isSeparator (kind : SchemeKind) (c : Char) : Bool := c == '/' || (kind.isSpecial && c == '\\')

/-- A character that ends the authority. -/
def endsAuthority (kind : SchemeKind) (c : Char) : Bool :=
  c == '/' || c == '?' || c == '#' || (kind.isSpecial && c == '\\')

/-! ## Scheme -/

/-- The scheme in lower case, and what follows its colon. -/
def scheme? (cs : List Char) : Option (List Char × List Char) :=
  let isSchemeChar := fun c : Char => c.isAlphanum || c == '+' || c == '-' || c == '.'
  match cs with
  | [] => none
  | c :: _ =>
    if !c.isAlpha then none
    else
      match cs.dropWhile isSchemeChar with
      | ':' :: rest => some ((cs.takeWhile isSchemeChar).map Char.toLower, rest)
      | _ => none

/-! ## User and password -/

/-- The text before the last `@` and the text after it. -/
def splitAtLast (cs : List Char) : Option (List Char × List Char) :=
  if cs.contains '@' then
    some (((cs.reverse.dropWhile (· ≠ '@')).drop 1).reverse, (cs.reverse.takeWhile (· ≠ '@')).reverse)
  else none

/-- The name of a user and a password, encoded. -/
def readUserinfo (cs : List Char) : List Char × Option (List Char) :=
  let user := cs.takeWhile (· ≠ ':')
  let password := (cs.dropWhile (· ≠ ':')).drop 1
  (Percent.encode Percent.notInUserinfo user,
    if password.isEmpty then none else some (Percent.encode Percent.notInUserinfo password))

/-! ## Host and port -/

/-- Splits before the character that ends a host: a colon outside brackets, or the end of the
authority. -/
def splitHost (kind : SchemeKind) : Bool → List Char → List Char × List Char
  | _, [] => ([], [])
  | inBrackets, c :: rest =>
    if (c == ':' && !inBrackets) || endsAuthority kind c then ([], c :: rest)
    else
      let (host, after) := splitHost kind ((inBrackets || c == '[') && c != ']') rest
      (c :: host, after)

/-- The port behind a colon. The default port and an empty one are left out. -/
def readPort (scheme : List Char) (cs : List Char) : Except UrlError (Option Nat × List Char) :=
  let digits := cs.takeWhile Char.isDigit
  let rest := cs.dropWhile Char.isDigit
  let n := Number.ofDigits digits
  let stops := match rest with
    | [] => true
    | c :: _ => c == '/' || c == '\\' || c == '?' || c == '#'
  if 65535 < n ∨ !stops then .error .port
  else .ok (if digits.isEmpty ∨ defaultPort? scheme = some n then none else some n, rest)

/-- The port, if a colon follows the host. -/
def readPort? (scheme : List Char) (cs : List Char) : Except UrlError (Option Nat × List Char) :=
  match cs with
  | ':' :: r => readPort scheme r
  | r => .ok (none, r)

/-- The host of a URL with this kind of scheme. -/
def readHost (kind : SchemeKind) (cs : List Char) : Except UrlError (Option Host) :=
  if kind.isSpecial then
    if cs.isEmpty then .error .emptyHost else (Host.ofSpecial cs).map some
  else Host.ofOpaque cs

/-! ## Path, query and fragment -/

/-- The segment means the directory above. -/
def isDoubleDot (segment : List Char) : Bool :=
  ["..", ".%2e", "%2e.", "%2e%2e"].contains (String.ofList (segment.map Char.toLower))

/-- The segment means the same directory. -/
def isSingleDot (segment : List Char) : Bool :=
  [".", "%2e"].contains (String.ofList (segment.map Char.toLower))

/-- Splits at every separator. -/
def splitSegments (kind : SchemeKind) : List Char → List (List Char)
  | [] => [[]]
  | c :: rest =>
    if isSeparator kind c then [] :: splitSegments kind rest
    else
      match splitSegments kind rest with
      | first :: more => (c :: first) :: more
      | [] => [[c]]

/-- Resolves dots. `done` are the segments so far, last one first; dots at the end leave an empty
segment behind. -/
def resolveDots (done : List (List Char)) : List (List Char) → List (List Char)
  | [] => done.reverse
  | s :: rest =>
    if isDoubleDot s then resolveDots (if rest.isEmpty then [] :: done.tail else done.tail) rest
    else if isSingleDot s then resolveDots (if rest.isEmpty then [] :: done else done) rest
    else resolveDots (Percent.encode Percent.notInPath s :: done) rest

/-- The path of a URL with an authority. Behind a special scheme it is never empty. -/
def readPath (kind : SchemeKind) (cs : List Char) : List (List Char) :=
  match cs with
  | [] => if kind.isSpecial then [[]] else []
  | c :: rest => resolveDots [] (splitSegments kind (if isSeparator kind c then rest else c :: rest))

/-- Splits before the first `?` or `#`. -/
def splitPath (cs : List Char) : List Char × List Char :=
  (cs.takeWhile fun c => c != '?' && c != '#', cs.dropWhile fun c => c != '?' && c != '#')

/-- The query and the fragment at the end of a URL. -/
def readTail (kind : SchemeKind) (cs : List Char) : Option (List Char) × Option (List Char) :=
  let fragment := fun r : List Char => Percent.encode Percent.notInFragment r
  match cs with
  | '?' :: rest =>
    let query := Percent.encode (Percent.notInQuery kind.isSpecial) (rest.takeWhile (· ≠ '#'))
    match rest.dropWhile (· ≠ '#') with
    | _ :: r => (some query, some (fragment r))
    | [] => (some query, none)
  | '#' :: rest => (none, some (fragment rest))
  | _ => (none, none)

/-! ## Whole URLs -/

/-- The rest of a URL from its user and password on. -/
def readAuthority (scheme : List Char) (kind : SchemeKind) (cs : List Char) : Except UrlError Url := do
  let authority := cs.takeWhile (!endsAuthority kind ·)
  let after := cs.dropWhile (!endsAuthority kind ·)
  let (userinfo, rest) := (splitAtLast authority).getD ([], authority)
  let hasSign := authority.contains '@'
  if hasSign && userinfo.isEmpty && rest.isEmpty && !after.isEmpty then .error .emptyHost
  else
    let (username, password) := readUserinfo userinfo
    let (hostText, behind) := splitHost kind false (rest ++ after)
    let host ← readHost kind hostText
    if host.isNone ∧ behind.head? = some ':' then .error .emptyHost
    else
      let (port, behind) ← readPort? scheme behind
      if host.isNone ∧ (!username.isEmpty ∨ password.isSome) then .error .emptyHost
      else
        let (path, tail) := splitPath behind
        let (query, fragment) := readTail kind tail
        .ok ⟨scheme, username, password, host, port, .segments (readPath kind path), query, fragment⟩

/-- A letter of a drive with its colon or bar. -/
def isDriveLetter (cs : List Char) : Bool :=
  match cs with
  | [a, b] => a.isAlpha && (b == ':' || b == '|')
  | _ => false

/-- The path of a file. A drive letter is written with a colon, and empty segments at the start do not
count. -/
def readFilePath (cs : List Char) : List (List Char) :=
  match (readPath .file cs).dropWhile (·.isEmpty) with
  | [] => [[]]
  | first :: rest => (if isDriveLetter first then first.take 1 ++ [':'] else first) :: rest

/-- The host of a file, and what follows it. Only two slashes begin an authority. The local host and the
host before a drive letter do not count. -/
def readFileHost (cs : List Char) : Except UrlError (Option Host × List Char) :=
  match cs with
  | a :: b :: r =>
    if isSeparator .file a && isSeparator .file b then
      let hostText := r.takeWhile (!endsAuthority .file ·)
      if isDriveLetter hostText then .ok (none, r)
      else if hostText.isEmpty then .ok (none, r)
      else do
        let h ← Host.ofSpecial hostText
        .ok (if h = .name "localhost".toList then none else some h, r.drop hostText.length)
    else .ok (none, cs)
  | r => .ok (none, r)

/-- The rest of a URL with the scheme of files. -/
def readFile (cs : List Char) : Except UrlError Url := do
  let (host, rest) ← readFileHost cs
  let (path, tail) := splitPath rest
  let (query, fragment) := readTail .file tail
  let names := readFilePath path
  let host := if names.head?.any isDriveLetter then none else host
  .ok ⟨"file".toList, [], none, host, none, .segments names, query, fragment⟩

/-- The rest of a URL without an authority. -/
def readPlain (scheme : List Char) (cs : List Char) : Url :=
  let (path, tail) := splitPath cs
  let (query, fragment) := readTail .other tail
  let path := match path with
    | '/' :: _ => .segments (readPath .other path)
    | path => .opaqueText (Percent.encode Percent.isControl path)
  ⟨scheme, [], none, none, none, path, query, fragment⟩

/-- Reads an absolute URL. -/
def ofText (text : String) : Except UrlError Url :=
  match scheme? (clean text.toList) with
  | none => .error .relative
  | some (scheme, rest) =>
    match SchemeKind.ofScheme scheme with
    | .file => readFile rest
    | .special => readAuthority scheme .special (rest.dropWhile fun c => c == '/' || c == '\\')
    | .other =>
      match rest with
      | '/' :: '/' :: r => readAuthority scheme .other r
      | r => .ok (readPlain scheme r)

end Checkout.Url
