import Checkout.Shell.Pattern
import Checkout.Shell.State

/-!
# From expanded text to fields

An expanded word is a list of marks: characters, and the places at which it falls into fields. Blanks
separate fields without leaving empty ones, other separators leave them; quotes keep a field that is
empty. A field with active pattern characters stands for the path names that it matches.
-/

namespace Checkout.Shell

/-- A part of an expanded word. -/
inductive Mark where
  | glyph (g : Glyph)
  /-- A blank that separates fields. -/
  | gap
  /-- Another character that separates fields. -/
  | cut
  /-- The border between two arguments. -/
  | border
  /-- Quotes, by which a field is there even if it is empty. -/
  | anchor
  deriving DecidableEq, Repr

namespace Mark

/-- Text in quotes. -/
def ofQuoted (text : Bytes) : List Mark := .anchor :: text.map fun c => .glyph ⟨c, true⟩

/-- Text that stands as it is written. -/
def ofPlain (text : Bytes) : List Mark := text.map fun c => .glyph ⟨c, false⟩

/-- Text that falls into fields at separators. -/
def ofSplit (separators text : Bytes) : List Mark :=
  text.map fun c =>
    if separators.contains c then if [' ', '\t', '\n'].contains c then .gap else .cut
    else .glyph ⟨c, false⟩

/-- Characters that stand as they are written, taken as text that falls into fields. -/
def splitAgain (separators : Bytes) (ms : List Mark) : List Mark :=
  ms.flatMap fun m =>
    match m with
    | .glyph ⟨c, false⟩ => ofSplit separators [c]
    | m => [m]

/-- Lists of marks with borders between them. -/
def bordered (items : List (List Mark)) : List Mark := [Mark.border].intercalate items

/-- The expanded word with all its separators taken as characters. -/
def pattern (ms : List Mark) : Pattern :=
  ms.filterMap fun m =>
    match m with
    | .glyph g => some g
    | .gap | .border | .cut => some ⟨' ', false⟩
    | .anchor => none

/-- A field that may go on. -/
structure Open where
  glyphs : Pattern
  isThere : Bool
  /-- Blanks have just ended a field. -/
  afterGap : Bool

/-- The fields of an expanded word. -/
def fields (o : Open) : List Mark → List Pattern
  | [] => if o.isThere then [o.glyphs] else []
  | .glyph g :: ms => fields ⟨o.glyphs ++ [g], true, false⟩ ms
  | .anchor :: ms => fields { o with isThere := true } ms
  | .gap :: ms => if o.isThere then o.glyphs :: fields ⟨[], false, true⟩ ms else fields o ms
  | .border :: ms => if o.isThere then o.glyphs :: fields ⟨[], false, false⟩ ms else fields o ms
  | .cut :: ms =>
    if o.isThere then o.glyphs :: fields ⟨[], false, false⟩ ms
    else if o.afterGap then fields ⟨[], false, false⟩ ms
    else [] :: fields ⟨[], false, false⟩ ms

end Mark

/-! ## Path names -/

/-- The parts of a pattern between slashes. -/
def patternParts : Pattern → List Pattern
  | [] => [[]]
  | g :: p =>
    if g.char = '/' then [] :: patternParts p
    else
      match patternParts p with
      | first :: more => (g :: first) :: more
      | [] => [[g]]

/-- The path names that the parts of a pattern lead to from a path name, in order. -/
def pathsFrom (fs : FileSystem) (here : Location) (done : Bytes) : List Pattern → List Bytes
  | [] => []
  | part :: rest =>
    let reached : List Bytes :=
      if Pattern.isActive part then
        let dir := if done.isEmpty then ("." : ByteString) else done.toByteString
        let names := ((fs.listDir here dir).toOption.getD []).map Bytes.ofByteString
        let shown := names.filter fun n =>
          Pattern.isMatch part n && (n.head? != some '.' || (part.head?.any fun g => g.char == '.'))
        (shown.mergeSort fun a b => decide (a ≤ b)).map (done ++ ·)
      else [done ++ part.text]
    match rest with
    | [] => reached.filter fun path => (fs.resolve here false path.toByteString).toOption.any fun
      | .entry _ _ => true
      | .vacant _ _ => false
    | more => reached.flatMap fun path => pathsFrom fs here (path ++ ['/']) more

/-- The path names that a field stands for, or its text if it matches none. -/
def pathsOf (fs : FileSystem) (here : Location) (field : Pattern) : List Bytes :=
  if Pattern.isActive field then
    match pathsFrom fs here [] (patternParts field) with
    | [] => [field.text]
    | paths => paths
  else [field.text]

end Checkout.Shell
