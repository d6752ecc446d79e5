import Checkout.Git.Client
import Checkout.Proofs.Agreement

/-!
# Clients under watch

A client moves the head of its repository in a way of its own. A watched client does the same and also
keeps an account: the head on which a merge was begun, and the commit that a merge was committed into.
Whatever does not merge or commit cannot tell whether it is watched.

Results:
* `agree_watched`: an operation agrees with itself under watch;
* `exec_noted`: an operation that is noted.
-/

namespace Checkout

variable {ρ α : Type}

/-! ## Accounts -/

/-- What is noted about the head of a repository. -/
inductive HeadEvent where
  /-- A merge is begun on this head. -/
  | merge (head : String)
  /-- A merge is committed into this commit. -/
  | commit (into : String)
  deriving DecidableEq, Repr

/-- A repository with an account. -/
structure Watched (ρ : Type) where
  repo : ρ
  seen : List HeadEvent

namespace Machine

/-- The machine with an account of its repository. -/
def watched (m : Machine ρ) (seen : List HeadEvent) : Machine (Watched ρ) :=
  ⟨m.files, m.workDir, m.scratch, m.writeFault, m.log, m.pauses, ⟨m.repo, seen⟩⟩

def unwatched (n : Machine (Watched ρ)) : Machine ρ :=
  ⟨n.files, n.workDir, n.scratch, n.writeFault, n.log, n.pauses, n.repo.repo⟩

end Machine

namespace Run

/-- The run on a machine with an account, which stays as it is. -/
def watched (x : Run ρ α) : Run (Watched ρ) α :=
  ExceptT.mk fun n => ((x.exec n.unwatched).1, (x.exec n.unwatched).2.watched n.repo.seen)

/-- Notes something about the repository. -/
def note (event : ρ → HeadEvent) : Run (Watched ρ) Unit :=
  modify fun n => n.unwatched.watched (n.repo.seen ++ [event n.repo.repo])

/-- The run on a machine with an account, once something was noted about the repository. -/
def noted (event : ρ → HeadEvent) (x : Run ρ α) : Run (Watched ρ) α := do
  note event
  x.watched

end Run

/-- The client with an account of the head, which it is asked for before each merge. -/
def RepositoryClient.watched (client : RepositoryClient ρ) (head : ρ → String) :
    RepositoryClient (Watched ρ) where
  init ctx := (client.init ctx).watched
  remoteAdd ctx name url := (client.remoteAdd ctx name url).watched
  setSparseCheckout ctx dirs := (client.setSparseCheckout ctx dirs).watched
  fetch ctx spec := (client.fetch ctx spec).watched
  checkout ctx reference := (client.checkout ctx reference).watched
  submoduleUpdate ctx init depth paths := (client.submoduleUpdate ctx init depth paths).watched
  configLocal ctx key value := (client.configLocal ctx key value).watched
  revParse ctx reference length := (client.revParse ctx reference length).watched
  log ctx format count := (client.log ctx format count).watched
  commit ctx branch remote sha := (client.commit ctx branch remote sha).noted fun _ => .commit sha
  merge ctx reference := (client.merge ctx reference).noted fun repo => .merge (head repo)
  fetchTags ctx := (client.fetchTags ctx).watched

/-! ## Watched runs -/

/-- The second machine is the first one with this account. -/
def WithAccount (seen : List HeadEvent) (m : Machine ρ) (n : Machine (Watched ρ)) : Prop :=
  n = m.watched seen

variable {seen : List HeadEvent} {m m' : Machine ρ} {x : Run ρ α} {a : α}

theorem blind_withAccount (seen : List HeadEvent) :
    Blind (WithAccount seen : Machine ρ → Machine (Watched ρ) → Prop) where
  files := fun h => by rw [h]; rfl
  workDir := fun h => by rw [h]; rfl
  writeFault := fun h => by rw [h]; rfl
  alter := fun {m n} h fs => by
    subst h
    rfl
  noting := fun {m n} h record => by
    subst h
    rfl

/-- **A run agrees with itself under watch.** -/
theorem agree_watched (seen : List HeadEvent) (x : Run ρ α) :
    Agree (WithAccount seen) Eq x x.watched := by
  intro m n h
  subst h
  exact ⟨alikeOutcome_refl _, rfl⟩

theorem exec_watched (h : x.exec m = (.ok a, m')) (seen : List HeadEvent) :
    x.watched.exec (m.watched seen) = (.ok a, m'.watched seen) := by
  have hexec : x.watched.exec (m.watched seen) = ((x.exec m).1, (x.exec m).2.watched seen) := rfl
  rw [hexec, h]

/-- A run that is noted ends like the run, and the account has the note. -/
theorem exec_noted (h : x.exec m = (.ok a, m')) (event : ρ → HeadEvent) (seen : List HeadEvent) :
    (x.noted event).exec (m.watched seen) = (.ok a, m'.watched (seen ++ [event m.repo])) := by
  have hnote : (Run.note event).exec (m.watched seen) =
      (.ok (), m.watched (seen ++ [event m.repo])) := rfl
  unfold Run.noted
  rw [Run.exec_bind_ok hnote]
  exact exec_watched h _

/-- What agrees with a run under watch ends like it. -/
theorem exec_of_agree {y : Run (Watched ρ) α} (hagree : Agree (WithAccount seen) Eq x y)
    (h : x.exec m = (.ok a, m')) : y.exec (m.watched seen) = (.ok a, m'.watched seen) := by
  obtain ⟨n', hn, hm'⟩ := hagree.exec_ok rfl h
  rw [hn]
  exact congrArg (Prod.mk _) hm'

end Checkout
