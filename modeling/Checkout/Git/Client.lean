import Checkout.Environment
import Checkout.Git.FetchSpec
import Checkout.Machine

/-!
# What a checkout needs of a repository

A `RepositoryClient` carries out the operations of a checkout. It may keep a state of its own, and a
checkout works with any client.
-/

namespace Checkout

/-- Where the operations of a run take place, and with which environment. -/
structure RepoContext where
  dir : ByteString
  env : GitEnvironment
  deriving DecidableEq, Repr

/-- The operations on a repository. Those with a text for a result give it without the blanks at its
ends. -/
structure RepositoryClient (ρ : Type) where
  init : RepoContext → Run ρ Unit
  /-- Adds a remote with a name and a URL. -/
  remoteAdd : RepoContext → String → String → Run ρ String
  /-- Narrows the checkout to some directories. -/
  setSparseCheckout : RepoContext → List String → Run ρ Unit
  fetch : RepoContext → FetchSpec → Run ρ Unit
  checkout : RepoContext → String → Run ρ Unit
  /-- Updates the submodules with these paths, initializing them first if told so; depth zero means the
  full history. -/
  submoduleUpdate : RepoContext → Bool → Nat → List String → Run ρ Unit
  /-- Sets a key of the repository's own configuration. -/
  configLocal : RepoContext → String → String → Run ρ Unit
  /-- The commit that a reference means, or a short name for it with at least so many digits, where
  zero leaves their number open. -/
  revParse : RepoContext → String → Option Nat → Run ρ String
  /-- So many last commits in a format. -/
  log : RepoContext → String → Nat → Run ρ String
  /-- Commits a merge of a branch of a remote into a commit. -/
  commit : RepoContext → String → String → String → Run ρ String
  /-- Merges a reference without committing. -/
  merge : RepoContext → String → Run ρ String
  /-- Fetches all tags and lists them. -/
  fetchTags : RepoContext → Run ρ (List String)

end Checkout
