import Checkout.Clone.Run
import Checkout.Git.Cli
import Checkout.Proofs.Agreement
import Checkout.Proofs.Retry.Attempt

/-!
# Clients in lockstep

What a checkout does in its directory depends on its client, on its audit and on the log. So two checkouts
agree as soon as the operations of their clients and their audits do, under any relation between machines
that lets them write to the log. Clients over git agree as soon as their runners agree on the commands of
one context, retries included.

Results:
* `Lockstep.inCheckout`: two checkouts with clients in lockstep agree;
* `lockstep_git`: clients over git with runners that agree.
-/

namespace Checkout

open Clone

variable {ρ σ : Type} {R : Machine ρ → Machine σ → Prop} {ctx : RepoContext}

/-- A relation between machines that lasts while both write the same to the log and take the same
pauses. -/
structure Patient (R : Machine ρ → Machine σ → Prop) : Prop where
  noting : ∀ {m n}, R m n → ∀ records, R (m.noting records) (n.noting records)
  resting : ∀ {m n}, R m n → ∀ d, R (m.resting d) (n.resting d)

theorem Patient.write (hR : Patient R) (level : Level) (part : Part) (message : String) :
    Agree R Eq (write level part message) (write level part message) :=
  fun _ _ h => ⟨.ok rfl, hR.noting h _⟩

/-- What a run that agrees with another one comes to. -/
theorem Agree.exists_exec {α : Type} {x : Run ρ α} {y : Run σ α} {m m' : Machine ρ} {n : Machine σ}
    {o : Except Error α} (h : Agree R Eq x y) (hR : R m n) (hx : x.exec m = (o, m')) :
    ∃ n', y.exec n = (o, n') ∧ R m' n' := by
  cases o with
  | ok a => exact h.exec_ok hR hx
  | error e => exact h.exec_error hR hx

/-! ## Clients -/

/-- Two clients whose operations agree in a context, those apart that merge. -/
structure Lockstep (R : Machine ρ → Machine σ → Prop) (ctx : RepoContext) (client : RepositoryClient ρ)
    (client' : RepositoryClient σ) : Prop where
  init : Agree R Eq (client.init ctx) (client'.init ctx)
  remoteAdd : ∀ name url, Agree R Eq (client.remoteAdd ctx name url) (client'.remoteAdd ctx name url)
  setSparseCheckout : ∀ dirs,
    Agree R Eq (client.setSparseCheckout ctx dirs) (client'.setSparseCheckout ctx dirs)
  fetch : ∀ spec, Agree R Eq (client.fetch ctx spec) (client'.fetch ctx spec)
  checkout : ∀ reference, Agree R Eq (client.checkout ctx reference) (client'.checkout ctx reference)
  submoduleUpdate : ∀ withInit depth paths, Agree R Eq (client.submoduleUpdate ctx withInit depth paths)
    (client'.submoduleUpdate ctx withInit depth paths)
  configLocal : ∀ key value, Agree R Eq (client.configLocal ctx key value) (client'.configLocal ctx key value)
  revParse : ∀ reference short,
    Agree R Eq (client.revParse ctx reference short) (client'.revParse ctx reference short)
  log : ∀ format count, Agree R Eq (client.log ctx format count) (client'.log ctx format count)
  fetchTags : Agree R Eq (client.fetchTags ctx) (client'.fetchTags ctx)

namespace Lockstep

variable {client : RepositoryClient ρ} {client' : RepositoryClient σ} {r : CloneRequest}

theorem perform (hR : Patient R) (h : Lockstep R ctx client client') :
    Agree R Eq (perform client ctx r) (perform client' ctx r) := by
  unfold Clone.perform
  refine agree_then (hR.write _ _ _) fun _ => ?_
  refine agree_then h.init fun _ => ?_
  refine agree_when (fun _ => h.setSparseCheckout _) ?_
  refine agree_then (hR.write _ _ _) fun _ => ?_
  refine agree_then (h.remoteAdd _ _) fun _ => ?_
  refine agree_then (hR.write _ _ _) fun _ => ?_
  refine agree_then (h.fetch _) fun _ => ?_
  refine agree_then (hR.write _ _ _) fun _ => ?_
  refine agree_then (h.checkout _) fun _ => ?_
  refine agree_ite (fun _ => ?_) fun _ => agree_pure rfl
  exact agree_then (hR.write _ _ _) fun _ => h.submoduleUpdate _ _ _

theorem gather (hR : Patient R) (h : Lockstep R ctx client client') (mergedSha : Option String) :
    Agree R Eq (gather client ctx r mergedSha) (gather client' ctx r mergedSha) := by
  unfold Clone.gather
  refine agree_then (h.revParse _ _) fun _ => ?_
  refine agree_then (h.revParse _ _) fun _ => ?_
  refine agree_then (h.log _ _) fun _ => ?_
  refine agree_then (hR.write _ _ _) fun _ => ?_
  refine agree_then (hR.write _ _ _) fun _ => ?_
  exact agree_then (hR.write _ _ _) fun _ => agree_pure rfl

theorem finish (hR : Patient R) (h : Lockstep R ctx client client')
    (haudit : Agree R Eq (SymlinkAudit.audit ctx.dir) (SymlinkAudit.audit ctx.dir))
    (mergedSha : Option String) :
    Agree R Eq (finish client r ctx mergedSha) (finish client' r ctx mergedSha) := by
  unfold Clone.finish
  refine agree_when (fun _ => haudit) ?_
  refine agree_then (h.gather hR mergedSha) fun _ => ?_
  refine agree_when (fun _ => ?_) (agree_pure rfl)
  exact agree_then h.fetchTags fun _ => hR.write _ _ _

theorem warnShallow (hR : Patient R) : Agree R Eq (Merge.warnShallow r) (Merge.warnShallow r) := by
  unfold Merge.warnShallow
  refine agree_when (fun _ => hR.write _ _ _) ?_
  exact agree_ite (fun _ => hR.write _ _ _) fun _ => agree_pure rfl

theorem addRemote (hR : Patient R) (h : Lockstep R ctx client client') (remote source : String) :
    Agree R Eq (Merge.addRemote client ctx remote source) (Merge.addRemote client' ctx remote source) := by
  unfold Merge.addRemote
  refine agree_ite (fun _ => ?_) fun _ => hR.write _ _ _
  refine agree_then (hR.write _ _ _) fun _ => ?_
  refine agree_then (hR.write _ _ _) fun _ => ?_
  exact agree_then (h.remoteAdd _ _) fun _ => hR.write _ _ _

section Merging

variable (hR : Patient R) (h : Lockstep R ctx client client')
  (hmerge : ∀ reference, Agree R Eq (client.merge ctx reference) (client'.merge ctx reference))
  (hcommit : ∀ branch remote sha,
    Agree R Eq (client.commit ctx branch remote sha) (client'.commit ctx branch remote sha))

include hR h hmerge hcommit

theorem merge : Agree R Eq (Merge.merge client ctx r) (Merge.merge client' ctx r) := by
  have hfrom : ∀ remote, Agree R Eq (Merge.mergeFrom client ctx r remote)
      (Merge.mergeFrom client' ctx r remote) := by
    intro remote
    unfold Merge.mergeFrom
    refine agree_then (h.fetch _) fun _ => ?_
    refine agree_then (h.configLocal _ _) fun _ => ?_
    refine agree_then (h.configLocal _ _) fun _ => ?_
    refine agree_then (h.revParse _ _) fun head => ?_
    refine agree_then (hmerge _) fun _ => ?_
    refine agree_then (hR.write _ _ _) fun _ => ?_
    refine agree_then (hcommit _ _ head) fun _ => ?_
    exact agree_then (hR.write _ _ _) fun _ => h.revParse _ _
  unfold Merge.merge
  refine agree_then (warnShallow hR) fun _ => ?_
  dsimp only
  cases r.mergeSourceRepoUrl.filter (· ≠ "") with
  | none => exact hfrom _
  | some source => exact agree_then (h.addRemote hR _ source) fun _ => hfrom _

/-- **Checkouts with clients in lockstep agree**, if their audits do. -/
theorem inCheckout (haudit : Agree R Eq (SymlinkAudit.audit ctx.dir) (SymlinkAudit.audit ctx.dir)) :
    Agree R Eq (inCheckout client r ctx) (inCheckout client' r ctx) := by
  unfold Clone.inCheckout
  refine agree_then (h.perform hR) fun _ => ?_
  refine agree_ite (fun _ => ?_) fun _ => ?_
  · exact agree_then (agree_map some (h.merge hR hmerge hcommit)) fun _ => h.finish hR haudit _
  · exact agree_then (agree_pure rfl) fun _ => h.finish hR haudit _

end Merging

end Lockstep

/-! ## Git -/

section Git

variable {run : Runner ρ} {run' : Runner σ} {policy : RetryPolicy} {op : Run ρ CommandOutput}
  {op' : Run σ CommandOutput}

namespace RetryPolicy

/-- Attempts at an operation are matched by attempts at one that agrees with it. -/
theorem Tries.exists_tries {p : RetryPolicy} {left attempt : Nat} {delay : Duration} {m m' : Machine ρ}
    {n : Machine σ} {o : RetryOutcome} (hR : Patient R) (hop : Agree R Eq op op')
    (h : Tries p op left attempt delay m o m') (hmn : R m n) :
    ∃ n', Tries p op' left attempt delay n o n' ∧ R m' n' := by
  induction h generalizing n with
  | last hcall he =>
    obtain ⟨n', hn, hR'⟩ := hop.exists_exec hmn hcall
    exact ⟨_, .last hn he, hR.noting hR' _⟩
  | again hcall he _ ih =>
    obtain ⟨n₁, hn, hR₁⟩ := hop.exists_exec hmn hcall
    obtain ⟨n', hlater, hR'⟩ := ih (hR.resting (hR.noting hR₁ _) _)
    exact ⟨n', .again hn he hlater, hR'⟩

/-- **Retried operations agree** if single attempts do. -/
theorem agree_run (hR : Patient R) (p : RetryPolicy) (hop : Agree R Eq op op') :
    Agree R Eq (ExceptT.lift (p.run op)) (ExceptT.lift (p.run op')) := by
  intro m n hmn
  rw [Run.exec_lift, Run.exec_lift]
  cases he : p.enabled with
  | true =>
    obtain ⟨n', hn, hR'⟩ := (tries_attemptFrom p op (p.maxAttempts.count - 1) 1 p.baseDelay
      (m.noting [p.startRecord])).exists_tries hR hop (hR.noting hmn _)
    rw [run_of_enabled he, run_of_enabled he, tries_iff.mp hn]
    exact ⟨.ok rfl, hR'⟩
  | false =>
    obtain ⟨n', hn, hR'⟩ := hop.exists_exec hmn (Prod.eta _).symm
    rw [run_of_not_enabled he (Prod.eta _).symm, run_of_not_enabled he hn]
    exact ⟨.ok rfl, hR'⟩

end RetryPolicy

/-- **Clients over git are in lockstep**, and merge alike, if their runners agree on the commands of the
context. -/
theorem lockstep_git (hR : Patient R)
    (hrun : ∀ args, Agree R Eq (run (Git.command ctx args)) (run' (Git.command ctx args))) :
    Lockstep R ctx (Git.client run policy) (Git.client run' policy) ∧
      (∀ reference, Agree R Eq ((Git.client run policy).merge ctx reference)
        ((Git.client run' policy).merge ctx reference)) ∧
      ∀ branch remote sha, Agree R Eq ((Git.client run policy).commit ctx branch remote sha)
        ((Git.client run' policy).commit ctx branch remote sha) := by
  have honce : ∀ operation args,
      Agree R Eq (Git.once run ctx operation args) (Git.once run' ctx operation args) :=
    fun _ args => agree_then (hrun args) fun _ => agree_ofExcept _
  have houtput : ∀ operation args,
      Agree R Eq (Git.output run ctx operation args) (Git.output run' ctx operation args) :=
    fun operation args => agree_then (honce operation args) fun _ => agree_pure rfl
  have heffect : ∀ operation args,
      Agree R Eq (Git.effect run ctx operation args) (Git.effect run' ctx operation args) :=
    fun operation args => agree_then (honce operation args) fun _ => agree_pure rfl
  refine ⟨{ init := heffect _ _, remoteAdd := fun _ _ => houtput _ _, checkout := fun _ => heffect _ _,
            submoduleUpdate := fun _ _ _ => heffect _ _, configLocal := fun _ _ => heffect _ _,
            revParse := fun _ _ => houtput _ _, log := fun _ _ => houtput _ _, setSparseCheckout := ?_,
            fetch := ?_, fetchTags := ?_ }, fun _ => houtput _ _, fun _ _ _ => houtput _ _⟩
  · intro dirs
    change Agree R Eq (Git.setSparseCheckout run ctx dirs) (Git.setSparseCheckout run' ctx dirs)
    unfold Git.setSparseCheckout
    refine agree_ite (fun _ => agree_then (agree_throw _) fun _ => ?_) fun _ => ?_ <;>
    exact agree_then (hR.write _ _ _) fun _ => agree_then (heffect _ _) fun _ => heffect _ _
  · intro spec
    refine agree_then (RetryPolicy.agree_run hR _ (hrun _)) fun outcome => ?_
    exact agree_then (agree_ofExcept _) fun _ => agree_pure rfl
  · exact agree_then (heffect _ _) fun _ => agree_then (honce _ _) fun _ => agree_pure rfl

end Git

end Checkout
