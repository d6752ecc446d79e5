import Checkout.Git.Client
import Checkout.Git.Version
import Checkout.Retry.Run

/-!
# Git as a repository client

`Git.client` turns every operation into one or two `git` processes in the directory and with the
environment of the context. A process that ends with another exit code than zero is an error; only a
fetch is tried more than once. `Git.arguments…` are the command lines.
-/

namespace Checkout.Git

open Text

variable {ρ : Type}

/-- The program that is run. -/
def program : String := "git"

/-- The command with some arguments in a context. -/
def command (ctx : RepoContext) (args : List String) : Command :=
  ⟨program, args, some ctx.dir, ctx.env.vars⟩

/-- The output of a process that has to succeed. -/
def checked (ctx : RepoContext) (operation : String) (out : CommandOutput) :
    Except Error CommandOutput :=
  if out.isSuccess then .ok out
  else .error (.commandFailed operation ctx.dir out.exitCode (trim out.stderr))

/-- Runs git once. -/
def once (run : Runner ρ) (ctx : RepoContext) (operation : String) (args : List String) :
    Run ρ CommandOutput := do
  let out ← run (command ctx args)
  Run.ofExcept (checked ctx operation out)

/-- Runs git once for its output. -/
def output (run : Runner ρ) (ctx : RepoContext) (operation : String) (args : List String) :
    Run ρ String := do
  let out ← once run ctx operation args
  return trim out.stdout

/-- Runs git once for its effect. -/
def effect (run : Runner ρ) (ctx : RepoContext) (operation : String) (args : List String) :
    Run ρ Unit := do
  let _ ← once run ctx operation args

/-! ## Command lines -/

/-- An option with a number, left out for zero. -/
def numbered (name : String) (n : Nat) : List String := if n = 0 then [] else [s!"--{name}={n}"]

def fetchArgs (spec : FetchSpec) : List String :=
  ["fetch"] ++ (if spec.submodules then ["--recurse-submodules=yes"] else []) ++
    numbered "depth" spec.depth ++ [spec.remote, "--update-head-ok", "--force"] ++ spec.refspec.toList

def submoduleArgs (withInit : Bool) (depth : Nat) (paths : List String) : List String :=
  ["submodule", "update", "--recursive"] ++ (if withInit then ["--init"] else []) ++ ["--force"] ++
    numbered "depth" depth ++ paths

def revParseArgs (reference : String) (short : Option Nat) : List String :=
  ["rev-parse"] ++
    (short.map fun n => if n = 0 then "--short" else s!"--short={n}").toList ++ [reference]

def logArgs (format : String) (count : Nat) : List String :=
  ["log", s!"-{count}", s!"--pretty=format:{format}"]

/-- The message of a merge commit. -/
def mergeMessage (branch remote sha : String) : String :=
  s!"Merge branch '{branch}' from {remote} into {sha}"

def mergeArgs (reference : String) : List String :=
  ["merge", reference, "--no-commit", "--no-ff", "--allow-unrelated-histories"]

/-- The lines of an output without the blanks at their ends; empty ones are left out. -/
def outputLines (text : String) : List String :=
  (((text.toList.splitOn '\n').map trimList).filter (!·.isEmpty)).map String.ofList

/-! ## Operations -/

def configLocal (run : Runner ρ) (ctx : RepoContext) (key value : String) : Run ρ Unit :=
  effect run ctx "git config" ["config", "--local", key, value]

/-- Narrows the checkout; there must be a directory. -/
def setSparseCheckout (run : Runner ρ) (ctx : RepoContext) (dirs : List String) : Run ρ Unit := do
  if dirs.isEmpty then throw (.validation "sparse checkout directories parameter empty")
  write .info .git s!"Configuring sparse checkout: {quoteList dirs}"
  configLocal run ctx "core.sparseCheckout" "true"
  effect run ctx "git sparse-checkout set" (["sparse-checkout", "set"] ++ dirs)

/-- Fetches under the policy, with the number of attempts that the fetch asks for. -/
def fetch (run : Runner ρ) (policy : RetryPolicy) (ctx : RepoContext) (spec : FetchSpec) :
    Run ρ Unit := do
  let outcome ← ExceptT.lift ((policy.withMaxAttempts spec.maxAttempts.count).run (run (command ctx (fetchArgs spec))))
  let _ ← Run.ofExcept (outcome.output "git fetch")

/-- Fetches all tags, and lists them if that succeeded. -/
def fetchTags (run : Runner ρ) (ctx : RepoContext) : Run ρ (List String) := do
  effect run ctx "git fetch --tags" ["fetch", "--tags"]
  let out ← once run ctx "git tag -l" ["tag", "-l"]
  return outputLines out.stdout

/-- Git as a repository client. -/
def client (run : Runner ρ) (policy : RetryPolicy) : RepositoryClient ρ where
  init ctx := effect run ctx "git init" ["init"]
  remoteAdd ctx name url := output run ctx "git remote add" ["remote", "add", name, url]
  setSparseCheckout := setSparseCheckout run
  fetch := fetch run policy
  checkout ctx reference := effect run ctx "git checkout" ["checkout", reference]
  submoduleUpdate ctx withInit depth paths :=
    effect run ctx "git submodule update" (submoduleArgs withInit depth paths)
  configLocal := configLocal run
  revParse ctx reference short := output run ctx "git rev-parse" (revParseArgs reference short)
  log ctx format count := output run ctx "git log" (logArgs format count)
  commit ctx branch remote sha :=
    output run ctx "git commit" ["commit", "-m", mergeMessage branch remote sha]
  merge ctx reference := output run ctx "git merge" (mergeArgs reference)
  fetchTags := fetchTags run

/-! ## Availability -/

/-- Fails unless `git --version` names a version that is recent enough. -/
def checkVersion (run : Runner ρ) : Run ρ Unit := do
  let out ← run ⟨program, ["--version"], none, []⟩
  if !out.isSuccess then
    throw (.spawn program s!"failed to get git version: {trim out.stderr}")
  let version ← Run.ofExcept (Version.ofOutput out.stdout)
  if version.isBefore .oldest then
    throw (.unsupportedGitVersion version.text Version.oldest.text)
  write .debug .git s!"Using git {version.text}"

/-- Fails unless git is installed and recent enough. -/
def detect (isInstalled : Bool) (run : Runner ρ) : Run ρ Unit := do
  if !isInstalled then throw (.spawn program "git CLI is not available")
  checkVersion run

end Checkout.Git
