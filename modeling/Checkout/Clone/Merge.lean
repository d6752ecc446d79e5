import Checkout.Clone.MergeSource
import Checkout.Clone.Request
import Checkout.Git.Client

/-!
# Merging the target branch

After a checkout the target branch may be fetched, from origin or from another repository, and merged
into what was checked out. `merge` gives the commit of the merge.
-/

namespace Checkout.Merge

variable {ρ : Type}

/-- Warns of depths that may leave out the common history. -/
def warnShallow (r : CloneRequest) : Run ρ Unit := do
  if r.depth = 1 then
    write .warn .merge <| "Shallow clone with depth=1 may cause merge conflicts " ++
      "due to insufficient commit history."
  if r.mergeSourceDepth = 1 then
    write .warn .merge <| "Shallow fetch with merge-source-depth=1 may cause merge conflicts " ++
      "due to insufficient commit history."

/-- Adds the remote of the merge source if it is another repository. -/
def addRemote (client : RepositoryClient ρ) (ctx : RepoContext) (remote source : String) :
    Run ρ Unit := do
  if remote = Defaults.mergeSourceRemote then
    write .info .merge s!"Merging from different repository: '{source}'"
    write .info .merge s!"Adding remote '{remote}'..."
    let added ← client.remoteAdd ctx remote source
    write .info .merge s!"Remote add: {added}"
  else
    write .info .merge "Merge source URL is the same as origin. Using existing 'origin' remote."

/-- What the fetch of the target branch asks for. -/
def fetchSpec (r : CloneRequest) (remote : String) : FetchSpec :=
  (((FetchSpec.new remote).withRefspec (some r.targetBranch)).withDepth r.mergeFetchDepth)
    |>.withMaxAttempts r.fetchAttempts

/-- Fetches the target branch of a remote, merges it, and gives the commit of the merge. -/
def mergeFrom (client : RepositoryClient ρ) (ctx : RepoContext) (r : CloneRequest) (remote : String) :
    Run ρ String := do
  client.fetch ctx (fetchSpec r remote)
  client.configLocal ctx "user.email" Defaults.mergeCommitEmail
  client.configLocal ctx "user.name" Defaults.mergeCommitName
  let head ← client.revParse ctx "HEAD" none
  let merged ← client.merge ctx s!"{remote}/{r.targetBranch}"
  write .info .merge s!"Merge: {merged}"
  let committed ← client.commit ctx r.targetBranch remote head
  write .info .merge s!"Commit: {committed}"
  client.revParse ctx "HEAD" none

/-- Merges the target branch, from another repository if the merge source is one. -/
def merge (client : RepositoryClient ρ) (ctx : RepoContext) (r : CloneRequest) : Run ρ String := do
  warnShallow r
  let remote := selectMergeRemote r.url r.mergeSourceRepoUrl
  match r.mergeSourceRepoUrl.filter (· ≠ "") with
  | some source => addRemote client ctx remote source
  | none => pure ()
  mergeFrom client ctx r remote

end Checkout.Merge
