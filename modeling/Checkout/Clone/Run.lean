import Checkout.Clone.Merge
import Checkout.Clone.Result
import Checkout.Credentials.Staging
import Checkout.Redaction
import Checkout.SymlinkAudit
import Checkout.Workspace

/-!
# Running a checkout

`Clone.run` carries out a request from its validation to the result: it stages credentials, prepares
the directory, fetches and checks out, merges if asked, looks for links that leave the checkout, and
reads what was checked out. The staged credentials are gone when it ends, whatever the outcome.
-/

namespace Checkout.Clone

variable {ρ : Type}

/-- A list as a parameter; an empty one is left out. -/
def listText? (items : List String) : Option String :=
  if items.isEmpty then none else some (",".intercalate items)

/-- The parameters of a request with their values, without the users and passwords in its URLs. Those
without a value are left out of the log. -/
def parameters (r : CloneRequest) : List (String × Option String) :=
  [("URL", some (redact r.url)),
    ("Depth", some s!"{r.depth}"),
    ("Submodules", some s!"{r.submodules}"),
    ("SSL verify", some s!"{r.sslVerify}"),
    ("Output dir", some r.outputDir.shown),
    ("Delete existing", some s!"{r.deleteExisting}"),
    ("Enable symlink check", some s!"{r.enableSymlinkCheck}"),
    ("Fetch tags", some s!"{r.fetchTags}"),
    ("Merge target branch", some s!"{r.mergeTargetBranch}"),
    ("Short commit length", some s!"{r.shortCommitLength}"),
    ("Retry max attempts", some s!"{r.retryMaxAttempts}"),
    ("Revision", r.revision),
    ("Refspec", r.refspec),
    ("Submodule paths", listText? r.submodulePaths),
    ("Subdirectory", r.subdirectory),
    ("Sparse checkout directories", listText? r.sparseCheckoutDirectories),
    ("Target branch", if r.mergeTargetBranch then some r.targetBranch else none),
    ("Merge source repo URL", r.mergeSourceRepoUrl.map redact),
    ("Merge source depth", if r.mergeSourceDepth = 0 then none else some s!"{r.mergeSourceDepth}"),
    ("Basic auth directory", r.basicAuthDirectory.map ByteString.shown),
    ("SSH directory", r.sshDirectory.map ByteString.shown),
    ("CA bundle path", r.caBundlePath.map ByteString.shown)]

/-- One line of the log for a parameter that has a value. -/
def writeParameter : String × Option String → Run ρ Unit
  | (name, some value) => write .info .clone s!"[param] {name}: {value}"
  | (_, none) => pure ()

/-- Writes the request to the log. -/
def writeParameters (r : CloneRequest) : Run ρ Unit := (parameters r).forM writeParameter

/-- What the fetch from origin asks for. -/
def originSpec (r : CloneRequest) : FetchSpec :=
  ((((FetchSpec.new Defaults.originRemote).withRefspec r.fetchRefspec).withDepth r.fetchDepth)
    |>.withSubmodules r.submodules).withMaxAttempts r.fetchAttempts

/-- Creates the repository, fetches into it and checks out. -/
def perform (client : RepositoryClient ρ) (ctx : RepoContext) (r : CloneRequest) : Run ρ Unit := do
  write .info .clone "Initializing git repository"
  client.init ctx
  if !r.sparseCheckoutDirectories.isEmpty then
    client.setSparseCheckout ctx r.sparseCheckoutDirectories
  write .info .clone s!"Adding remote origin: {redact r.url}"
  let _ ← client.remoteAdd ctx Defaults.originRemote r.url
  let refspec := r.fetchRefspec.getD ""
  write .info .clone s!"Fetching from origin (depth={r.depth}, refspec={refspec})"
  client.fetch ctx (originSpec r)
  write .info .clone s!"Checking out {Defaults.fetchHead}"
  client.checkout ctx Defaults.fetchHead
  if r.submodules then
    write .info .clone "Updating submodules"
    client.submoduleUpdate ctx true r.fetchDepth r.submodulePaths

/-- Reads what was checked out. -/
def gather (client : RepositoryClient ρ) (ctx : RepoContext) (r : CloneRequest)
    (mergedSha : Option String) : Run ρ CloneResult := do
  let commit ← client.revParse ctx "HEAD" none
  let shortCommit ← client.revParse ctx "HEAD" (some r.shortCommitLength)
  let timestamp ← client.log ctx "%ct" 1
  write .info .clone s!"Commit: {commit}"
  write .info .clone s!"Short commit: {shortCommit}"
  write .info .clone s!"Commit timestamp: {timestamp}"
  return ⟨r.url, commit, shortCommit, timestamp, mergedSha⟩

/-- Fetches the tags and says how many there are. -/
def reportTags (client : RepositoryClient ρ) (ctx : RepoContext) : Run ρ Unit := do
  let tags ← client.fetchTags ctx
  write .info .clone s!"Fetched {tags.length} tag(s)"

/-- Everything that happens after the merge: the links are audited and the result is read. -/
def finish (client : RepositoryClient ρ) (r : CloneRequest) (ctx : RepoContext)
    (mergedSha : Option String) : Run ρ CloneResult := do
  if r.enableSymlinkCheck then SymlinkAudit.audit ctx.dir
  let result ← gather client ctx r mergedSha
  if r.fetchTags then reportTags client ctx
  return result

/-- Everything that happens in the directory of the checkout. -/
def inCheckout (client : RepositoryClient ρ) (r : CloneRequest) (ctx : RepoContext) :
    Run ρ CloneResult := do
  perform client ctx r
  let mergedSha ← if r.mergeTargetBranch then some <$> Merge.merge client ctx r else pure none
  finish client r ctx mergedSha

/-- The credentials that a request names. -/
def credentialSource (r : CloneRequest) : CredentialSource :=
  ⟨r.url, r.basicAuthDirectory, r.sshDirectory, r.caBundlePath, r.sslVerify⟩

/-- Stages credentials into a private directory and prepares the directory of the checkout. Gives the
environment of git. -/
def setUp (r : CloneRequest) (privateDir : ByteString) : Run ρ GitEnvironment := do
  let env ← Credentials.stageInto (credentialSource r) privateDir
  if r.deleteExisting then Workspace.clean r.checkoutDir
  Workspace.prepare r.checkoutDir
  return env

/-- Everything that needs the private directory. -/
def withStaged (client : RepositoryClient ρ) (r : CloneRequest) (privateDir : ByteString) :
    Run ρ CloneResult := do
  let env ← setUp r privateDir
  inCheckout client r ⟨r.checkoutDir, env⟩

/-- Carries out a request. -/
def run (client : RepositoryClient ρ) (r : CloneRequest) : Run ρ CloneResult := do
  writeParameters r
  Run.ofExcept r.validate
  Run.withPrivateDir (withStaged client r)

end Checkout.Clone
