import Checkout.Proofs.Clone.CheckoutDir
import Checkout.Proofs.Clone.Sequence
import Checkout.Proofs.Clone.SetUp

/-!
# A checkout carries out its plan

`Clone.run` over git carries out the plan of its request once everything is set up, whatever the policy
and whatever git answers.

Results:
* `run_executes_plan`: the commands of a run are those of an execution of the plan.
-/

namespace Checkout.Clone

theorem depths_of_validate {r : CloneRequest} (h : r.validate = .ok ()) :
    0 ≤ r.depth ∧ 0 ≤ r.mergeSourceDepth := by
  obtain ⟨-, hdepth, hmerge, -⟩ := CloneRequest.validate_eq_ok_iff.mp h
  exact ⟨hdepth, hmerge⟩

/-- **A checkout carries out its plan.** The commands that git gets are those of an execution of the
plan in the directory of the checkout and with the staged environment, from the machine that has been
set up; the run succeeds just if nothing in the execution failed. -/
theorem run_executes_plan (policy : RetryPolicy) {r : CloneRequest} {m m₁ : Machine Script}
    {env : GitEnvironment} (hvalid : r.validate = .ok ()) (hprepared : prepared r m = (.ok env, m₁)) :
    ∃ (calls : List Command) (final : Option String) (m₂ : Machine Script),
      Executes ⟨r.checkoutDir, env⟩ (max 1 r.retryMaxAttempts) "" r.plan m₁.silent calls final m₂ ∧
      ((run (Git.client Script.runner policy) r).exec m).2.repo.calls = m.repo.calls ++ calls ∧
      ((run (Git.client Script.runner policy) r).exec m).2.silent =
        { m₂ with files := m₂.files.remove m.scratch } ∧
      (((run (Git.client Script.runner policy) r).exec m).1.isOk = final.isSome) := by
  obtain ⟨hdepth, hmerge⟩ := depths_of_validate hvalid
  have hcarries : Carries ⟨r.checkoutDir, env⟩ (max 1 r.retryMaxAttempts)
      (inCheckout (Git.client Script.runner policy) r ⟨r.checkoutDir, env⟩) "" r.plan fun _ _ => True :=
    carries_inCheckout hdepth hmerge
  have hrepo : m₁.repo = m.repo := by
    have h := prepared_repo r m
    rwa [hprepared] at h
  rw [exec_run_of_prepared _ hvalid hprepared]
  cases ho : (inCheckout (Git.client Script.runner policy) r ⟨r.checkoutDir, env⟩).exec m₁ with
  | mk o m₃ =>
    cases o with
    | ok result =>
      obtain ⟨calls, next, hexec, -⟩ := hcarries.ok ho
      have hcalls := hexec.calls_eq
      refine ⟨calls, some next, m₃.silent, hexec, ?_, rfl, rfl⟩
      rw [← hrepo]
      exact hcalls
    | error e =>
      obtain ⟨calls, hexec⟩ := hcarries.error ho
      have hcalls := hexec.calls_eq
      refine ⟨calls, none, m₃.silent, hexec, ?_, rfl, rfl⟩
      rw [← hrepo]
      exact hcalls

/-- A checkout with a merge and with tags on a bare machine, with a script that lets everything succeed. -/
theorem run_executes_plan_of_merge :
    let r := { CloneRequest.new "https://e.org/x" with mergeTargetBranch := true, fetchTags := true }
    let m : Machine Script := Machine.bare ⟨[], [], []⟩
    ∃ m₁, r.validate = .ok () ∧ prepared r m = (.ok GitEnvironment.default, m₁) ∧
      ∃ (calls : List Command) (final : Option String) (m₂ : Machine Script),
        Executes ⟨r.checkoutDir, .default⟩ (max 1 r.retryMaxAttempts) "" r.plan m₁.silent calls final m₂ ∧
        ((run (Git.client Script.runner .default) r).exec m).2.repo.calls = m.repo.calls ++ calls ∧
        ((run (Git.client Script.runner .default) r).exec m).2.silent =
          { m₂ with files := m₂.files.remove m.scratch } ∧
        ((run (Git.client Script.runner .default) r).exec m).1.isOk = final.isSome := by
  intro r m
  have hvalid : r.validate = .ok () := rfl
  have henv : (prepared r m).1.toOption = some GitEnvironment.default := by decide +kernel
  have hprepared : prepared r m = (.ok GitEnvironment.default, (prepared r m).2) :=
    Run.exec_eq_of_toOption henv
  exact ⟨_, hvalid, hprepared, run_executes_plan .default hvalid hprepared⟩

end Checkout.Clone
