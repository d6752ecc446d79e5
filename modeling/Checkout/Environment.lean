import Checkout.Text.ByteString

/-!
# The environment of git

The variables that every git call of a run sets: no prompt on the terminal, and what the staged
credentials ask for.
-/

namespace Checkout

/-- What the variables of a git call depend on. -/
structure GitEnvironment where
  sslVerify : Bool
  caBundle : Option ByteString
  gitConfig : Option ByteString
  sshCommand : Option String
  deriving DecidableEq, Repr

namespace GitEnvironment

/-- Certificates are verified, and nothing else is set. -/
def default : GitEnvironment := ⟨true, none, none, none⟩

def withSslVerify (e : GitEnvironment) (verify : Bool) : GitEnvironment := { e with sslVerify := verify }

def withCaBundle (e : GitEnvironment) (path : ByteString) : GitEnvironment := { e with caBundle := some path }

def withGitConfig (e : GitEnvironment) (path : ByteString) : GitEnvironment :=
  { e with gitConfig := some path }

def withSshCommand (e : GitEnvironment) (command : String) : GitEnvironment :=
  { e with sshCommand := some command }

/-- The variables with their values, always in the same order. -/
def vars (e : GitEnvironment) : List (String × ByteString) :=
  [("GIT_TERMINAL_PROMPT", ("0" : ByteString))] ++
    (if e.sslVerify then [] else [("GIT_SSL_NO_VERIFY", ("true" : ByteString))]) ++
    (e.caBundle.map ("GIT_SSL_CAINFO", ·)).toList ++
    (e.gitConfig.map ("GIT_CONFIG_GLOBAL", ·)).toList ++
    (e.sshCommand.map fun command => ("GIT_SSH_COMMAND", .ofText command)).toList

end GitEnvironment

end Checkout
