import Checkout.Clone.Csv
import Checkout.Clone.Request
import Checkout.CommandLine.Scan

/-!
# What a command line asks for

`Invocation.read` reads a whole command line, with the variables that stand in for options, as a
checkout to carry out.
-/

namespace Checkout.CommandLine

/-- A checkout to carry out, how much of the log to show, and where else to write the result. -/
structure Invocation where
  logLevel : String
  request : CloneRequest
  resultFile : Option ByteString

namespace Settings

/-- A text that is there and not empty. -/
def filled? (text : Option String) : Option String := text.filter (· ≠ "")

/-- How often a fetch may be tried: as often as told, but at least once. -/
def attempts (given : Option Int) : Nat := (max (given.getD Defaults.retryMaxAttempts) 1).toNat

/-- The request that the settings of a checkout from a URL describe. Empty texts count as none. -/
def request (ss : Settings) (url : String) : CloneRequest where
  url := url
  revision := filled? (ss.get? .revision)
  refspec := filled? (ss.get? .refspec)
  depth := (ss.get? .depth).getD Defaults.depth
  submodules := (ss.get? .submodules).getD true
  submodulePaths := parseCsv ((ss.get? .submodulePaths).getD "")
  sparseCheckoutDirectories := parseCsv ((ss.get? .sparseCheckoutDirectories).getD "")
  outputDir := (ss.get? .outputDir).getD Defaults.outputDir
  subdirectory := filled? (ss.get? .subdirectory)
  deleteExisting := (ss.get? .deleteExisting).getD false
  enableSymlinkCheck := (ss.get? .enableSymlinkCheck).getD true
  fetchTags := (ss.get? .fetchTags).getD false
  mergeTargetBranch := (ss.get? .mergeTargetBranch).getD false
  targetBranch := (ss.get? .targetBranch).getD Defaults.targetBranch
  mergeSourceRepoUrl := filled? (ss.get? .mergeSourceRepoUrl)
  mergeSourceDepth := (ss.get? .mergeSourceDepth).getD Defaults.mergeSourceDepth
  retryMaxAttempts := attempts (ss.get? .retryMaxAttempts)
  shortCommitLength := (ss.get? .shortCommitLength).getD Defaults.shortCommitLength
  basicAuthDirectory := ss.get? .basicAuthDirectory
  sshDirectory := ss.get? .sshDirectory
  caBundlePath := ss.get? .caBundlePath
  sslVerify := (ss.get? .sslVerify).getD true

end Settings

namespace Invocation

/-- The settings of a checkout: its options, then the variables of the options that are not given. -/
def readCheckout (vars : List (String × String)) (args : List String) :
    Except UsageError Settings := do
  let found ← scan .gitClone .empty args
  (← found.draft.settle).giveVariables vars Parameter.ofCheckout

/-- The scope that a wish for help is about. -/
def helpTopic : List String → UsageError
  | [] => .helpRequested .program
  | [word] =>
    if word = Scope.gitCloneWord then .helpRequested .gitClone
    else if word = Scope.helpWord then .helpRequested .program
    else .unknownCommand word
  | word :: next :: _ =>
    .unknownCommand (if Scope.commandWords .program |>.contains word then next else word)

/-- How much of the log is shown unless told otherwise. -/
def defaultLogLevel : String := "info"

/-- Reads a command line. An option behind the name of the command counts before the same option in
front of it. -/
def read (vars : List (String × String)) (args : List String) : Except UsageError Invocation := do
  let found ← scan .program .empty args
  match found.command with
  | none =>
    if (← found.draft.settle).isEmpty then throw .nothingGiven
    throw .missingCommand
  | some (word, rest) =>
    if word = Scope.helpWord then throw (helpTopic rest)
    let inner ← readCheckout vars rest
    match inner.get? .url with
    | none => throw (.missingParameter .url)
    | some url =>
      let outer ← found.draft.settle
      return {
        logLevel := ((inner.get? .logLevel).or (outer.get? .logLevel)).getD defaultLogLevel
        request := inner.request url
        resultFile := inner.get? .resultFile }

end Invocation

end Checkout.CommandLine
