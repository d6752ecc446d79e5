import Checkout.Defaults

/-!
# Where a merge comes from

Two URLs mean one repository if they differ in a slash or a `.git` at the end only. A target branch
is fetched from origin unless the merge source is another repository.
-/

namespace Checkout

/-- A list without a given ending, if it has it. -/
def withoutEnding (ending cs : List Char) : List Char :=
  if ending.isSuffixOf cs then cs.take (cs.length - ending.length) else cs

/-- The normal form of a repository's URL: without one slash at the end, then without `.git`. -/
def normalizeUrlList (cs : List Char) : List Char :=
  withoutEnding ".git".toList (withoutEnding ['/'] cs)

/-- The normal form of a repository's URL. -/
def normalizeUrl (url : String) : String := String.ofList (normalizeUrlList url.toList)

/-- The remote to fetch the target branch from. -/
def selectMergeRemote (origin : String) (source : Option String) : String :=
  match source.filter (· ≠ "") with
  | some s => if normalizeUrl s = normalizeUrl origin then Defaults.originRemote
    else Defaults.mergeSourceRemote
  | none => Defaults.originRemote

end Checkout
