import Checkout.Text.ByteString

/-!
# The parameters of the command line

Each parameter has a name, a kind of value and, if it is one of a checkout, a variable that stands in
for it. `ValueKind.Value` is the type of the values of a kind, so that a value that has been read has
the type its parameter calls for.
-/

namespace Checkout.CommandLine

/-- What the value of a parameter has to be. -/
inductive ValueKind where
  /-- Any text. -/
  | text
  /-- A path name, which is any text but the empty one. -/
  | path
  /-- The word `true` or the word `false`. -/
  | flag
  /-- An integer of 32 bits. -/
  | integer
  /-- A natural number of 32 bits. -/
  | natural
  deriving DecidableEq, Repr

/-- The type of the values of a kind. -/
abbrev ValueKind.Value : ValueKind → Type
  | .text => String
  | .path => ByteString
  | .flag => Bool
  | .integer => Int
  | .natural => Nat

/-- What a command line can set. -/
inductive Parameter where
  | logLevel
  | url
  | revision
  | refspec
  | submodules
  | submodulePaths
  | depth
  | shortCommitLength
  | sslVerify
  | subdirectory
  | sparseCheckoutDirectories
  | deleteExisting
  | enableSymlinkCheck
  | fetchTags
  | caBundlePath
  | mergeTargetBranch
  | targetBranch
  | mergeSourceRepoUrl
  | mergeSourceDepth
  | outputDir
  | retryMaxAttempts
  | basicAuthDirectory
  | sshDirectory
  | resultFile
  deriving DecidableEq, Repr

namespace Parameter

/-- The parameters of a checkout, in the order in which their variables are read. -/
def ofCheckout : List Parameter :=
  [.url, .revision, .refspec, .submodules, .submodulePaths, .depth, .shortCommitLength, .sslVerify,
    .subdirectory, .sparseCheckoutDirectories, .deleteExisting, .enableSymlinkCheck, .fetchTags,
    .caBundlePath, .mergeTargetBranch, .targetBranch, .mergeSourceRepoUrl, .mergeSourceDepth,
    .outputDir, .retryMaxAttempts, .basicAuthDirectory, .sshDirectory, .resultFile]

/-- The name of the parameter, which follows two hyphens. -/
def name : Parameter → String
  | .logLevel => "log-level"
  | .url => "url"
  | .revision => "revision"
  | .refspec => "refspec"
  | .submodules => "submodules"
  | .submodulePaths => "submodule-paths"
  | .depth => "depth"
  | .shortCommitLength => "short-commit-length"
  | .sslVerify => "ssl-verify"
  | .subdirectory => "subdirectory"
  | .sparseCheckoutDirectories => "sparse-checkout-directories"
  | .deleteExisting => "delete-existing"
  | .enableSymlinkCheck => "enable-symlink-check"
  | .fetchTags => "fetch-tags"
  | .caBundlePath => "ca-bundle-path"
  | .mergeTargetBranch => "merge-target-branch"
  | .targetBranch => "target-branch"
  | .mergeSourceRepoUrl => "merge-source-repo-url"
  | .mergeSourceDepth => "merge-source-depth"
  | .outputDir => "output-dir"
  | .retryMaxAttempts => "retry-max-attempts"
  | .basicAuthDirectory => "basic-auth-directory"
  | .sshDirectory => "ssh-directory"
  | .resultFile => "result-file"

/-- The letter of the parameter, which follows one hyphen. -/
def letter? : Parameter → Option Char
  | .url => some 'u'
  | .outputDir => some 'o'
  | _ => none

def kind : Parameter → ValueKind
  | .submodules | .sslVerify | .deleteExisting | .enableSymlinkCheck | .fetchTags
  | .mergeTargetBranch => .flag
  | .depth | .mergeSourceDepth | .retryMaxAttempts => .integer
  | .shortCommitLength => .natural
  | .caBundlePath | .outputDir | .basicAuthDirectory | .sshDirectory | .resultFile => .path
  | .logLevel | .url | .revision | .refspec | .submodulePaths | .subdirectory
  | .sparseCheckoutDirectories | .targetBranch | .mergeSourceRepoUrl => .text

/-- The text that stands for the value when the option is given without one. -/
def impliedText? (p : Parameter) : Option String :=
  if p.kind = .flag then some "true" else none

/-- A numeral with a minus sign after the option is its value. -/
def takesNegative (p : Parameter) : Bool := p.kind == .integer

/-- The variable that is read when the option is not given. -/
def variableName (p : Parameter) : String :=
  "KBC_GIT_CLONE_" ++ String.ofList
    (p.name.toList.map fun c => if c = '-' then '_' else c.toUpper)

end Parameter

end Checkout.CommandLine
