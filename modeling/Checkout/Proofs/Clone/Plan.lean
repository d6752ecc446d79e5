import Checkout.Clone.MergeSource
import Checkout.Clone.Request
import Checkout.Git.Cli
import Checkout.Proofs.Git.Canned
import Checkout.SymlinkAudit

/-!
# The plan of a checkout

A request has a plan: a flat list of items, each one command of git or the audit of the links. The
command lines are spelled out here once more, from the request alone. `Executes` says what it is to
carry out a plan, item after item up to the first one that fails.

Only one item depends on an answer: a commit names the head that the item `head` before it read, which
is kept for it.

Results:
* `Executes.calls`: the commands of an execution are the ones that the script recorded;
* `Executes.append`, `Executes.stop`: executions of plans one after another.
-/

namespace Checkout

/-! ## Items -/

/-- One item of a plan. -/
inductive PlanItem where
  /-- A command that is carried out once. -/
  | call (args : List String)
  /-- A command that may be repeated. -/
  | fetch (args : List String)
  /-- Reads the head and keeps it. -/
  | head
  /-- Commits a merge of a branch of a remote into the head that was kept. -/
  | commit (branch remote : String)
  /-- Looks for links that leave the checkout. -/
  | audit
  deriving DecidableEq, Repr

namespace PlanItem

/-- The arguments of the command of an item, given the head that is kept. The audit has none. -/
def args? (kept : String) : PlanItem → Option (List String)
  | .call args => some args
  | .fetch args => some args
  | .head => some ["rev-parse", "HEAD"]
  | .commit branch remote =>
    some ["commit", "-m", s!"Merge branch '{branch}' from {remote} into {kept}"]
  | .audit => none

/-- How often an item may be carried out where a fetch may be so often. -/
def most (attempts : Nat) : PlanItem → Nat
  | .fetch _ => attempts
  | _ => 1

/-- The head that is kept after an item with this output. -/
def keep (kept : String) (out : CommandOutput) : PlanItem → String
  | .head => Text.trim out.stdout
  | _ => kept

end PlanItem

/-! ## Plans -/

namespace CloneRequest

/-- A text that is not empty. -/
def given? : Option String → Option String
  | some "" => none
  | text => text

/-- An option for a depth above zero. -/
def depthArgs (depth : Int) : List String := if 0 < depth then [s!"--depth={depth}"] else []

/-- The command line of a fetch. -/
def fetchLine (submodules : Bool) (depth : Int) (remote : String) (refspec : Option String) :
    List String :=
  ["fetch"] ++ (if submodules then ["--recurse-submodules=yes"] else []) ++ depthArgs depth ++
    [remote, "--update-head-ok", "--force"] ++ refspec.toList

/-- What is fetched from origin: the refspec, else the revision, else the default. -/
def wanted (r : CloneRequest) : Option String :=
  match given? r.refspec with
  | some refspec => some refspec
  | none => given? r.revision

/-- The repository is made, fetched into and checked out. -/
def checkoutPlan (r : CloneRequest) : List PlanItem :=
  [.call ["init"]] ++
  (if r.sparseCheckoutDirectories = [] then [] else
    [.call ["config", "--local", "core.sparseCheckout", "true"],
      .call (["sparse-checkout", "set"] ++ r.sparseCheckoutDirectories)]) ++
  [.call ["remote", "add", "origin", r.url], .fetch (fetchLine r.submodules r.depth "origin" r.wanted),
    .call ["checkout", "FETCH_HEAD"]] ++
  (if r.submodules then
    [.call (["submodule", "update", "--recursive", "--init", "--force"] ++ depthArgs r.depth ++
      r.submodulePaths)]
  else [])

/-- The target branch of a remote is fetched, merged and committed. -/
def mergeFrom (r : CloneRequest) (remote : String) : List PlanItem :=
  [.fetch (fetchLine false r.mergeSourceDepth remote (given? (some r.targetBranch))),
    .call ["config", "--local", "user.email", Defaults.mergeCommitEmail],
    .call ["config", "--local", "user.name", Defaults.mergeCommitName],
    .head,
    .call ["merge", s!"{remote}/{r.targetBranch}", "--no-commit", "--no-ff",
      "--allow-unrelated-histories"],
    .commit r.targetBranch remote,
    .call ["rev-parse", "HEAD"]]

/-- The merge of the target branch, from another repository if the merge source is one. -/
def mergePlan (r : CloneRequest) : List PlanItem :=
  match given? r.mergeSourceRepoUrl with
  | some source =>
    if normalizeUrl source = normalizeUrl r.url then r.mergeFrom "origin"
    else .call ["remote", "add", "merge-source", source] :: r.mergeFrom "merge-source"
  | none => r.mergeFrom "origin"

/-- What was checked out is read. -/
def gatherPlan (r : CloneRequest) : List PlanItem :=
  [.call ["rev-parse", "HEAD"],
    .call ["rev-parse", if r.shortCommitLength = 0 then "--short" else s!"--short={r.shortCommitLength}",
      "HEAD"],
    .call ["log", "-1", "--pretty=format:%ct"]]

/-- What is planned after the merge. -/
def finishPlan (r : CloneRequest) : List PlanItem :=
  (if r.enableSymlinkCheck then [.audit] else []) ++ (r.gatherPlan ++
    (if r.fetchTags then [.call ["fetch", "--tags"], .call ["tag", "-l"]] else []))

/-- The whole plan of a request. -/
def plan (r : CloneRequest) : List PlanItem :=
  r.checkoutPlan ++ ((if r.mergeTargetBranch then r.mergePlan else []) ++ r.finishPlan)

/-- The items of a plan stand before, in or after the merge. -/
theorem mem_plan {r : CloneRequest} {item : PlanItem} (h : item ∈ r.plan) :
    item ∈ r.checkoutPlan ∨ (r.mergeTargetBranch = true ∧ item ∈ r.mergePlan) ∨ item ∈ r.finishPlan := by
  unfold plan at h
  by_cases hmerge : r.mergeTargetBranch = true
  · rw [if_pos hmerge, List.mem_append, List.mem_append] at h
    exact h.imp_right (Or.imp_left fun hitem => ⟨hmerge, hitem⟩)
  · rw [if_neg hmerge, List.nil_append, List.mem_append] at h
    exact h.imp_right Or.inr

/-- Everything that may be in the plan of a checkout before the merge. -/
theorem checkoutPlan_subset (r : CloneRequest) :
    r.checkoutPlan ⊆ [.call ["init"], .call ["config", "--local", "core.sparseCheckout", "true"],
      .call (["sparse-checkout", "set"] ++ r.sparseCheckoutDirectories),
      .call ["remote", "add", "origin", r.url], .fetch (fetchLine r.submodules r.depth "origin" r.wanted),
      .call ["checkout", "FETCH_HEAD"],
      .call (["submodule", "update", "--recursive", "--init", "--force"] ++ depthArgs r.depth ++
        r.submodulePaths)] := by
  unfold checkoutPlan
  by_cases hsparse : r.sparseCheckoutDirectories = [] <;> by_cases hsub : r.submodules = true <;>
    simp [hsparse, hsub]

/-- Everything that may be in the plan of a checkout after the merge. -/
theorem finishPlan_subset (r : CloneRequest) :
    r.finishPlan ⊆ [.audit, .call ["rev-parse", "HEAD"],
      .call ["rev-parse", if r.shortCommitLength = 0 then "--short" else s!"--short={r.shortCommitLength}",
        "HEAD"],
      .call ["log", "-1", "--pretty=format:%ct"], .call ["fetch", "--tags"], .call ["tag", "-l"]] := by
  unfold finishPlan gatherPlan
  by_cases haudit : r.enableSymlinkCheck = true <;> by_cases htags : r.fetchTags = true <;>
    simp [haudit, htags]

end CloneRequest

/-! ## Executions -/

/-- An execution of a plan in a context, where a fetch may be made `attempts` times: from the head that
is kept and a machine to the commands that were made, the head that is kept at the end, and the machine
afterwards. There is no head at the end if an item failed, and then nothing was done after it. -/
inductive Executes (ctx : RepoContext) (attempts : Nat) :
    String → List PlanItem → Machine Script → List Command → Option String → Machine Script → Prop
  | done (kept : String) (m : Machine Script) : Executes ctx attempts kept [] m [] (some kept) m
  | command {kept : String} {item : PlanItem} {rest : List PlanItem} {args : List String} {k : Nat}
      {m m₁ m' : Machine Script} {out : CommandOutput} {calls : List Command} {final : Option String} :
      item.args? kept = some args → k ≤ item.most attempts →
      Repeated (Git.command ctx args) k m (.ok out) m₁ → out.exitCode = 0 →
      Executes ctx attempts (item.keep kept out) rest m₁ calls final m' →
      Executes ctx attempts kept (item :: rest) m
        (List.replicate k (Git.command ctx args) ++ calls) final m'
  | commandFails {kept : String} {item : PlanItem} {rest : List PlanItem} {args : List String}
      {k : Nat} {m m' : Machine Script} {answer : Attempted} :
      item.args? kept = some args → k ≤ item.most attempts →
      Repeated (Git.command ctx args) k m answer m' → ¬ Succeeded answer →
      Executes ctx attempts kept (item :: rest) m (List.replicate k (Git.command ctx args)) none m'
  | audit {kept : String} {rest : List PlanItem} {m m' : Machine Script} {calls : List Command}
      {final : Option String} :
      ((SymlinkAudit.audit ctx.dir).exec m).1 = .ok () →
      Executes ctx attempts kept rest m calls final m' →
      Executes ctx attempts kept (.audit :: rest) m calls final m'
  | auditFails {kept : String} {rest : List PlanItem} {m : Machine Script} {e : Error} :
      ((SymlinkAudit.audit ctx.dir).exec m).1 = .error e →
      Executes ctx attempts kept (.audit :: rest) m [] none m

namespace Executes

variable {ctx : RepoContext} {attempts : Nat} {kept next : String} {p q : List PlanItem}
  {m m₁ m' : Machine Script} {calls more : List Command} {final : Option String}

/-- The commands of an execution are those that the script recorded, in order. -/
theorem calls_eq (h : Executes ctx attempts kept p m calls final m') :
    m'.repo.calls = m.repo.calls ++ calls := by
  induction h with
  | done kept m => simp
  | command _ _ hr _ _ ih => rw [ih, hr.calls, List.append_assoc]
  | commandFails _ _ hr _ => exact hr.calls
  | audit _ _ ih => exact ih
  | auditFails _ => simp

/-- A plan after a plan that was carried out to its end. -/
theorem append (h : Executes ctx attempts kept p m calls (some next) m₁)
    (h' : Executes ctx attempts next q m₁ more final m') :
    Executes ctx attempts kept (p ++ q) m (calls ++ more) final m' := by
  generalize hs : some next = o at h
  induction h with
  | done kept m =>
    cases hs
    exact h'
  | command hargs hk hr hout _ ih =>
    rw [List.append_assoc]
    exact .command hargs hk hr hout (ih h' hs)
  | commandFails _ _ _ _ => cases hs
  | audit hok _ ih => exact .audit hok (ih h' hs)
  | auditFails _ => cases hs

/-- A plan that failed, whatever was planned after it. -/
theorem stop (h : Executes ctx attempts kept p m calls none m') (q : List PlanItem) :
    Executes ctx attempts kept (p ++ q) m calls none m' := by
  generalize hs : (none : Option String) = o at h
  induction h with
  | done kept m => cases hs
  | command hargs hk hr hout _ ih => exact .command hargs hk hr hout (ih hs)
  | commandFails hargs hk hr hans =>
    cases hs
    exact .commandFails hargs hk hr hans
  | audit hok _ ih => exact .audit hok (ih hs)
  | auditFails herr =>
    cases hs
    exact .auditFails herr

end Executes

end Checkout
