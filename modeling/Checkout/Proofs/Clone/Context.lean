import Checkout.Proofs.Clone.Ground
import Checkout.Proofs.Clone.Transcript
import Checkout.Proofs.Credentials.Variables

/-!
# One context for all calls

A run hands the same context to every operation: the directory of the checkout, and the environment that
staging came to. So all calls of git are made there and with the same variables, the repeated ones and those
of a merge or for tags included.

Results:
* `Executes.command_eq`: an execution of a plan keeps to one context;
* `one_context`: the calls of a run.
-/

namespace Checkout

open Clone

variable {ctx : RepoContext} {attempts : Nat} {kept : String} {p : List PlanItem}

/-- **Every command of an execution** is one of git in the context of the execution. -/
theorem Executes.command_eq {m m' : Machine Script} {calls : List Command} {final : Option String}
    (h : Executes ctx attempts kept p m calls final m') :
    ∀ c ∈ calls, c = Git.command ctx c.args := by
  induction h with
  | done kept m =>
    intro c hc
    cases hc
  | command _ _ _ _ _ ih =>
    intro c hc
    rcases List.mem_append.mp hc with hc | hc
    · rw [List.eq_of_mem_replicate hc]
      rfl
    · exact ih c hc
  | commandFails _ _ _ _ =>
    intro c hc
    rw [List.eq_of_mem_replicate hc]
    rfl
  | audit _ _ ih => exact ih
  | auditFails _ =>
    intro c hc
    cases hc

/-- However it ends, a run that carries out a plan has made the commands of an execution. -/
theorem Carries.exists_calls {α : Type} {x : Run Script α} {post : α → String → Prop}
    (h : Carries ctx attempts x kept p post) (m : Machine Script) :
    ∃ calls final m', Executes ctx attempts kept p m.silent calls final m' ∧
      (x.exec m).2.repo.calls = m.repo.calls ++ calls := by
  cases hx : x.exec m with
  | mk o m' =>
    cases o with
    | ok a =>
      obtain ⟨calls, next, hexec, -⟩ := h.ok hx
      exact ⟨calls, some next, m'.silent, hexec, hexec.calls_eq⟩
    | error e =>
      obtain ⟨calls, hexec⟩ := h.error hx
      exact ⟨calls, none, m'.silent, hexec, hexec.calls_eq⟩

/-! ## The run of a request -/

namespace Clone

variable {ρ : Type} {r : CloneRequest} {env : GitEnvironment}

/-- The environment that setting up comes to is the one that staging came to. -/
theorem staged_of_prepared {m m₁ : Machine ρ} (h : prepared r m = (.ok env, m₁)) :
    ∃ m₀, staged r m = (.ok env, m₀) := by
  cases hstaged : staged r m with
  | mk o m₀ =>
    cases o with
    | error e =>
      rw [prepared_of_not_staged hstaged] at h
      cases h
    | ok env' =>
      rw [prepared_of_staged hstaged] at h
      obtain ⟨_, m₂, -, hpure⟩ := Run.exec_bind_eq_ok h
      cases hpure
      exact ⟨m₀, rfl⟩

/-- What staging finds is what is there when it begins, and it keeps all of it. -/
theorem found_of_staged {m m₀ : Machine ρ} (h : staged r m = (.ok env, m₀)) :
    Credentials.Found (credentialSource r) m.workDir (Run.enterPrivateDir m).files env ∧
      m₀.workDir = m.workDir ∧ FileSystem.Keeps (Run.enterPrivateDir m).files m₀.files := by
  have htriple : Run.Triple (ρ := ρ) m.workDir m.writeFault Credentials.Anyhow
      (· = (Run.enterPrivateDir m).files)
      (Credentials.stageInto (credentialSource r) (FileSystem.absolutePath m.scratch)) fun env fs =>
        Credentials.Found (credentialSource r) m.workDir (Run.enterPrivateDir m).files env ∧
          FileSystem.Keeps (Run.enterPrivateDir m).files fs :=
    Credentials.triple_stageInto_found _ _
  obtain ⟨hhere, hfound, hkeeps⟩ := htriple.of_ok
    (m := Run.enterPrivateDir (m.noting (parameterRecords (parameters r)))) ⟨rfl, rfl⟩ rfl h
  exact ⟨hfound, hhere.1, hkeeps⟩

/-- The calls of a run that was set up. -/
theorem exists_calls_of_prepared (policy : RetryPolicy) {m m₁ : Machine Script}
    (hvalid : r.validate = .ok ()) (hprepared : prepared r m = (.ok env, m₁)) :
    ∃ calls final m', Executes ⟨r.checkoutDir, env⟩ (max 1 r.retryMaxAttempts) "" r.plan m₁.silent calls
        final m' ∧
      ((run (Git.client Script.runner policy) r).exec m).2.repo.calls = m.repo.calls ++ calls := by
  obtain ⟨hdepth, hmerge⟩ := depths_of_validate hvalid
  have hcarries : Carries ⟨r.checkoutDir, env⟩ (max 1 r.retryMaxAttempts)
      (inCheckout (Git.client Script.runner policy) r ⟨r.checkoutDir, env⟩) "" r.plan fun _ _ => True :=
    carries_inCheckout hdepth hmerge
  have hrepo : m₁.repo = m.repo := by
    have h := prepared_repo r m
    rwa [hprepared] at h
  obtain ⟨calls, final, m', hexec, hcalls⟩ := hcarries.exists_calls m₁
  rw [exec_run_of_prepared _ hvalid hprepared, ← hrepo]
  exact ⟨calls, final, m', hexec, hcalls⟩

/-- **One context for all calls.** Whatever git answers, each call of a run is one of git in the directory
of the checkout, and all of them have the same variables: those for which the request and the files that
staging begins with give a reason. -/
theorem one_context (policy : RetryPolicy) (r : CloneRequest) (m : Machine Script) :
    ∃ calls vars,
      ((run (Git.client Script.runner policy) r).exec m).2.repo.calls = m.repo.calls ++ calls ∧
      ∀ c ∈ calls, c = ⟨"git", c.args, some r.checkoutDir, vars⟩ ∧
        Credentials.Variables (credentialSource r) m.workDir (Run.enterPrivateDir m).files vars := by
  have hnone : ∀ {m' : Machine Script}, m'.repo = m.repo → m'.repo.calls = m.repo.calls ++ [] :=
    fun h => by rw [h, List.append_nil]
  cases hvalid : r.validate with
  | error e =>
    rw [exec_run_of_not_valid _ m hvalid]
    exact ⟨[], [], hnone rfl, fun c hc => by cases hc⟩
  | ok _ =>
    have hrepo := prepared_repo r m
    cases hprepared : prepared r m with
    | mk o m₁ =>
      rw [hprepared] at hrepo
      cases o with
      | error e =>
        rw [exec_run_of_not_prepared _ hvalid hprepared]
        exact ⟨[], [], hnone hrepo, fun c hc => by cases hc⟩
      | ok env =>
        obtain ⟨calls, final, m', hexec, hcalls⟩ := exists_calls_of_prepared policy hvalid hprepared
        obtain ⟨m₀, hstaged⟩ := staged_of_prepared hprepared
        have hvars := (found_of_staged hstaged).1.variables
        exact ⟨calls, env.vars, hcalls, fun c hc => ⟨hexec.command_eq c hc, hvars⟩⟩

end Clone

end Checkout
