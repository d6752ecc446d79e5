import Checkout.Text.Blank

/-!
# Credential helpers in a git configuration

A configuration that stores credentials in the home directory has lines `helper = store`.
`rewriteHelper` makes each of them name a file and leaves every other line as it is.
-/

namespace Checkout

open Text

/-- A credential helper that stores in the home directory, without the blanks around it. -/
def plainHelper : List Char := "helper = store".toList

/-- A line without the blanks around it is a plain helper. -/
def isPlainHelper (line : List Char) : Bool := trimList line == plainHelper

/-- A line in which a plain helper names a file, its indentation kept. -/
def rewriteLine (path line : List Char) : List Char :=
  if isPlainHelper line then
    line.takeWhile (fun c => c == ' ' || c == '\t') ++ plainHelper ++ " --file=".toList ++ path
  else line

/-- The lines of a configuration, rewritten one by one. -/
def rewriteLines (path config : List Char) : List Char :=
  ['\n'].intercalate ((config.splitOn '\n').map (rewriteLine path))

/-- A configuration whose plain helpers name a file. -/
def rewriteHelper (config path : String) : String :=
  String.ofList (rewriteLines path.toList config.toList)

end Checkout
