import Checkout.FileSystem.Errno
import Checkout.Text.ByteString
import Checkout.Url.Error

/-!
# Failures of a run

One type for everything that can go wrong and one function for what is said about it.
-/

namespace Checkout

/-- Why a run failed. -/
inductive Error where
  /-- A request makes no sense. -/
  | validation (message : String)
  /-- A program could not be started. -/
  | spawn (program message : String)
  /-- A program that runs once ended with an exit code other than zero. -/
  | commandFailed (operation : String) (dir : ByteString) (exitCode : Int) (stderr : String)
  /-- A program that may run several times never succeeded. -/
  | retryExhausted (operation : String) (attempts : Nat) (exitCode : Int) (stderr : String)
  | symlinkEscape (count : Nat)
  /-- A directory holds credentials in no known layout. -/
  | authFormat (dir : ByteString)
  | unsupportedGitVersion (found required : String)
  | io (e : IoError)
  | urlParse (e : UrlError)
  /-- A text is no regular expression. -/
  | regex
  deriving DecidableEq, Repr

namespace Error

/-- What is said about the failure. -/
def message : Error → String
  | .validation m => s!"Invalid request: {m}"
  | .spawn program m => s!"Failed to run {program}: {m}"
  | .commandFailed operation dir exitCode stderr =>
    s!"{operation} failed in {dir} with exit code {exitCode} (stderr: {stderr})"
  | .retryExhausted operation attempts exitCode stderr =>
    s!"{operation} failed after {attempts} attempt(s) with exit code {exitCode} (stderr: {stderr})"
  | .symlinkEscape count => s!"found {count} symlink(s) pointing outside the repository"
  | .authFormat dir =>
    s!"unknown basic-auth workspace format in {dir}: " ++
      "expected .git-credentials/.gitconfig or username/password files"
  | .unsupportedGitVersion found required =>
    s!"unsupported git version '{found}': {required} or newer is required"
  | .io e => s!"I/O error: {e.message}"
  | .urlParse e => s!"URL parsing error: {e.message}"
  | .regex => "Regex error"

/-- What is said about the failure behind this one, if there is one. -/
def cause? : Error → Option String
  | .io e => some e.message
  | .urlParse e => some e.message
  | _ => none

end Error

end Checkout
