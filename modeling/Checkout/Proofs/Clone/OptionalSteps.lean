import Checkout.Proofs.Clone.Context
import Checkout.Proofs.Clone.Lockstep

/-!
# Steps that may be left out

A request says whether links are audited, and whether tags are fetched. Before the audit both are read for the
log only, so runs of a request with any of these steps begin alike. The audit looks at the files and writes to
the log; the tags are fetched when the result is there already. So these steps can end a run with an error; what
they leave otherwise is lines in the log, and calls for tags after all others.

Results:
* `opens`: runs with any of the steps come to the audit alike;
* `exec_finish_audit`, `finish_tags`: what each of the steps adds after that;
* `tags_unseen`, `audit_unseen`, `optional_steps_unseen`: runs with and without them.
-/

namespace Checkout

open Clone

variable {ρ : Type}

/-! ## Equal but for the log -/

/-- Machines that differ in their logs at most. -/
def SameButLog (m n : Machine ρ) : Prop := ∃ log, n = { m with log := log }

theorem SameButLog.repo {m n : Machine ρ} (h : SameButLog m n) : n.repo = m.repo := by
  obtain ⟨log, rfl⟩ := h
  rfl

theorem SameButLog.files {m n : Machine ρ} (h : SameButLog m n) : n.files = m.files := by
  obtain ⟨log, rfl⟩ := h
  rfl

theorem SameButLog.both {base m n : Machine ρ} (h : SameButLog base m) (h' : SameButLog base n) :
    SameButLog m n := by
  obtain ⟨_, rfl⟩ := h
  obtain ⟨log, rfl⟩ := h'
  exact ⟨log, rfl⟩

theorem blind_sameButLog : Blind (SameButLog : Machine ρ → Machine ρ → Prop) where
  files := fun ⟨_, h⟩ => by rw [h]
  workDir := fun ⟨_, h⟩ => by rw [h]
  writeFault := fun ⟨_, h⟩ => by rw [h]
  alter := fun ⟨log, h⟩ _ => ⟨log, by rw [h]⟩
  noting := fun ⟨log, h⟩ record => ⟨log ++ [record], by rw [h]; rfl⟩

theorem patient_sameButLog : Patient (SameButLog : Machine ρ → Machine ρ → Prop) where
  noting := fun ⟨log, h⟩ records => ⟨log ++ records, by rw [h]; rfl⟩
  resting := fun ⟨log, h⟩ _ => ⟨log, by rw [h]; rfl⟩

/-- A script does not see the log. -/
theorem agree_runner (c : Command) : Agree SameButLog Eq (Script.runner c) (Script.runner c) := by
  rintro m n ⟨log, rfl⟩
  rw [exec_runner, exec_runner]
  exact ⟨alikeOutcome_refl _, log, rfl⟩

/-- An audit does not see the log. -/
theorem agree_audit_sameButLog (path : ByteString) :
    Agree (SameButLog : Machine ρ → Machine ρ → Prop) Eq (SymlinkAudit.audit path)
      (SymlinkAudit.audit path) := by
  rintro m n ⟨log, rfl⟩
  rw [SymlinkAudit.exec_audit, SymlinkAudit.exec_audit]
  exact ⟨alikeOutcome_refl _, _, rfl⟩

/-! ## Up to the audit -/

/-- The request with or without an audit of links, and with or without tags. -/
def CloneRequest.withSteps (r : CloneRequest) (audit tags : Bool) : CloneRequest :=
  { r with enableSymlinkCheck := audit, fetchTags := tags }

namespace Clone

/-- What comes into the directory of the checkout. -/
def content (client : RepositoryClient ρ) (r : CloneRequest) (ctx : RepoContext) : Run ρ (Option String) := do
  perform client ctx r
  if r.mergeTargetBranch then some <$> Merge.merge client ctx r else pure none

/-- What is done in the private directory before the audit: the context of the calls and the merged commit
come of it. -/
def opening (client : RepositoryClient ρ) (r : CloneRequest) (privateDir : ByteString) :
    Run ρ (RepoContext × Option String) := do
  let env ← setUp r privateDir
  let mergedSha ← content client r ⟨r.checkoutDir, env⟩
  return (⟨r.checkoutDir, env⟩, mergedSha)

/-- A run up to the audit. -/
def untilAudit (client : RepositoryClient ρ) (r : CloneRequest) : Run ρ (RepoContext × Option String) := do
  writeParameters r
  Run.ofExcept r.validate
  Run.withPrivateDir (opening client r)

/-- A run goes on after the audit where it came to up to it. -/
theorem withStaged_eq (client : RepositoryClient ρ) (r : CloneRequest) (privateDir : ByteString) :
    withStaged client r privateDir = (do
      let (ctx, mergedSha) ← opening client r privateDir
      finish client r ctx mergedSha) := by
  unfold withStaged opening inCheckout content
  simp only [bind_assoc, pure_bind]
  refine bind_congr fun env => bind_congr fun _ => ?_
  by_cases hmerge : r.mergeTargetBranch = true
  · simp only [if_pos hmerge]
  · simp only [if_neg hmerge, pure_bind]

/-- What is left when the private directory is removed. -/
def leaving {α : Type} (scratch : Location) (o : Except Error α × Machine ρ) : Except Error α × Machine ρ :=
  (o.1, { o.2 with files := o.2.files.remove scratch })

theorem exec_untilAudit (client : RepositoryClient ρ) {r : CloneRequest} (m : Machine ρ)
    (hvalid : r.validate = .ok ()) :
    (untilAudit client r).exec m =
      leaving m.scratch ((opening client r (FileSystem.absolutePath m.scratch)).exec
        (Run.enterPrivateDir (m.noting (parameterRecords (parameters r))))) := by
  unfold untilAudit
  rw [exec_checked, hvalid]
  rfl

theorem exec_run_opening (client : RepositoryClient ρ) {r : CloneRequest} (m : Machine ρ)
    (hvalid : r.validate = .ok ()) :
    (run client r).exec m =
      leaving m.scratch ((do
        let (ctx, mergedSha) ← opening client r (FileSystem.absolutePath m.scratch)
        finish client r ctx mergedSha).exec
          (Run.enterPrivateDir (m.noting (parameterRecords (parameters r))))) := by
  unfold run
  rw [exec_checked, hvalid, ← withStaged_eq]
  rfl

section Opening

variable (policy : RetryPolicy) (r : CloneRequest)

/-- Clients over a script do not see the log. -/
theorem lockstep_sameButLog (ctx : RepoContext) :
    Lockstep SameButLog ctx (Git.client Script.runner policy) (Git.client Script.runner policy) ∧
      (∀ reference, Agree SameButLog Eq ((Git.client Script.runner policy).merge ctx reference)
        ((Git.client Script.runner policy).merge ctx reference)) ∧
      ∀ branch remote sha, Agree SameButLog Eq ((Git.client Script.runner policy).commit ctx branch remote sha)
        ((Git.client Script.runner policy).commit ctx branch remote sha) :=
  lockstep_git patient_sameButLog fun _ => agree_runner _

theorem agree_opening (privateDir : ByteString) :
    Agree SameButLog Eq (opening (Git.client Script.runner policy) r privateDir)
      (opening (Git.client Script.runner policy) r privateDir) := by
  refine agree_then (agree_setUp blind_sameButLog (AlikeUrls.refl r) privateDir) fun env => ?_
  obtain ⟨hclient, hmerge, hcommit⟩ := lockstep_sameButLog policy ⟨r.checkoutDir, env⟩
  refine agree_then ?_ fun _ => agree_pure rfl
  refine agree_then (hclient.perform patient_sameButLog) fun _ => ?_
  refine agree_ite (fun _ => ?_) fun _ => agree_pure rfl
  exact agree_map some (hclient.merge patient_sameButLog hmerge hcommit)

/-- What the opening of a run comes to. -/
def opened (m : Machine Script) :
    Except Error (RepoContext × Option String) × Machine Script :=
  (opening (Git.client Script.runner policy) r (FileSystem.absolutePath m.scratch)).exec
    (Run.enterPrivateDir m)

/-- The opening does not see which of the steps will follow, but for the log. -/
theorem exec_opening_withSteps (m : Machine Script) (audit tags : Bool) (records : List Record) :
    ∃ log, (opening (Git.client Script.runner policy) (r.withSteps audit tags)
        (FileSystem.absolutePath m.scratch)).exec (Run.enterPrivateDir (m.noting records)) =
      ((opened policy r m).1, { (opened policy r m).2 with log := log }) := by
  obtain ⟨hout, log, hlog⟩ := agree_opening policy r (FileSystem.absolutePath m.scratch)
    (Run.enterPrivateDir m) (Run.enterPrivateDir (m.noting records)) ⟨_, rfl⟩
  exact ⟨log, Prod.ext hout.eq.symm hlog⟩

/-- How far the runs of a request with any of the steps come before the audit: all of them fail there with
one error, or all of them get there in one context. What they come to differs in the log only. -/
inductive Opens (m : Machine Script) : Prop
  | fails (e : Error) (base : Machine Script) : (∀ audit tags, ∃ n, SameButLog base n ∧
        (untilAudit (Git.client Script.runner policy) (r.withSteps audit tags)).exec m = (.error e, n) ∧
        (run (Git.client Script.runner policy) (r.withSteps audit tags)).exec m = (.error e, n)) →
      Opens m
  | reaches (ctx : RepoContext) (mergedSha : Option String) (base : Machine Script) :
      (∀ audit tags, ∃ n, SameButLog base n ∧
        (untilAudit (Git.client Script.runner policy) (r.withSteps audit tags)).exec m =
          leaving m.scratch (.ok (ctx, mergedSha), n) ∧
        (run (Git.client Script.runner policy) (r.withSteps audit tags)).exec m =
          leaving m.scratch
            ((finish (Git.client Script.runner policy) (r.withSteps audit tags) ctx mergedSha).exec n)) →
      Opens m

/-- **Runs with any of the steps come to the audit alike.** -/
theorem opens (m : Machine Script) : Opens policy r m := by
  cases hvalid : r.validate with
  | error e =>
    refine .fails e m fun audit tags => ?_
    have hvalid' : (r.withSteps audit tags).validate = .error e := hvalid
    refine ⟨_, ⟨_, rfl⟩, ?_, exec_run_of_not_valid _ m hvalid'⟩
    unfold untilAudit
    rw [exec_checked, hvalid']
    rfl
  | ok _ =>
    have hopen := exec_opening_withSteps policy r m
    cases hopened : opened policy r m with
    | mk o base =>
      rw [hopened] at hopen
      cases o with
      | error e =>
        refine .fails e { base with files := base.files.remove m.scratch } fun audit tags => ?_
        have hvalid' : (r.withSteps audit tags).validate = .ok () := hvalid
        obtain ⟨log, hlog⟩ := hopen audit tags (parameterRecords (parameters (r.withSteps audit tags)))
        refine ⟨{ base with files := base.files.remove m.scratch, log := log }, ⟨log, rfl⟩, ?_, ?_⟩
        · rw [exec_untilAudit _ m hvalid', hlog]
          rfl
        · rw [exec_run_opening _ m hvalid', Run.exec_bind_error hlog]
          rfl
      | ok found =>
        refine .reaches found.1 found.2 base fun audit tags => ?_
        have hvalid' : (r.withSteps audit tags).validate = .ok () := hvalid
        obtain ⟨log, hlog⟩ := hopen audit tags (parameterRecords (parameters (r.withSteps audit tags)))
        refine ⟨{ base with log := log }, ⟨log, rfl⟩, ?_, ?_⟩
        · rw [exec_untilAudit _ m hvalid', hlog]
        · rw [exec_run_opening _ m hvalid', Run.exec_bind_ok hlog]

end Opening

/-! ## From the audit on -/

section Finish

variable {ρ : Type} (client : RepositoryClient ρ) (r : CloneRequest) (ctx : RepoContext)
  (mergedSha : Option String)

/-- An audit comes first, and only looks. -/
theorem exec_finish_audit (tags : Bool) (n : Machine ρ) :
    (finish client (r.withSteps true tags) ctx mergedSha).exec n =
      match SymlinkAudit.audited n.files n.workDir ctx.dir with
      | .error e => (.error e, n.noting (SymlinkAudit.auditRecords n.files n.workDir ctx.dir))
      | .ok _ => (finish client (r.withSteps false tags) ctx mergedSha).exec
          (n.noting (SymlinkAudit.auditRecords n.files n.workDir ctx.dir)) := by
  have hfirst : finish client (r.withSteps true tags) ctx mergedSha = (do
      SymlinkAudit.audit ctx.dir
      finish client (r.withSteps false tags) ctx mergedSha) := rfl
  rw [hfirst, Run.exec_bind, SymlinkAudit.exec_audit]
  cases SymlinkAudit.audited n.files n.workDir ctx.dir <;> rfl

/-- Tags come last, and do not change the result. -/
theorem finish_tags (audit : Bool) :
    finish client (r.withSteps audit true) ctx mergedSha = (do
      let result ← finish client (r.withSteps audit false) ctx mergedSha
      reportTags client ctx
      return result) := by
  unfold finish
  cases audit <;> simp [CloneRequest.withSteps, bind_assoc] <;> rfl

end Finish

section Ends

variable (policy : RetryPolicy) (r : CloneRequest) (ctx : RepoContext) (mergedSha : Option String)
  {n n' : Machine Script}

/-- The end of a run does not see the log. -/
theorem agree_finish_sameButLog :
    Agree SameButLog Eq (finish (Git.client Script.runner policy) r ctx mergedSha)
      (finish (Git.client Script.runner policy) r ctx mergedSha) :=
  (lockstep_sameButLog policy ctx).1.finish patient_sameButLog (agree_audit_sameButLog _) mergedSha

/-- Calls are added to those before the audit. -/
theorem calls_prefix_finish (n : Machine Script) :
    n.repo.calls <+: ((finish (Git.client Script.runner policy) r ctx mergedSha).exec n).2.repo.calls := by
  have hcarries : Carries ctx 1 (finish (Git.client Script.runner policy) r ctx mergedSha) "" r.finishPlan
      (Keeps CloneResult "") := carries_finish mergedSha
  obtain ⟨calls, -, -, -, hcalls⟩ := hcarries.exists_calls n
  exact ⟨calls, hcalls.symm⟩

theorem calls_prefix_reportTags (n : Machine Script) :
    n.repo.calls <+: ((reportTags (Git.client Script.runner policy) ctx).exec n).2.repo.calls := by
  have hcarries : Carries ctx 1 (reportTags (Git.client Script.runner policy) ctx) ""
      [.call ["fetch", "--tags"], .call ["tag", "-l"]] (Keeps Unit "") := carries_reportTags
  obtain ⟨calls, -, -, -, hcalls⟩ := hcarries.exists_calls n
  exact ⟨calls, hcalls.symm⟩

/-- **An audit at the end of a run** ends it, or is not seen. -/
theorem finish_audit_unseen (tags : Bool) (h : SameButLog n n') :
    let audited := (finish (Git.client Script.runner policy) (r.withSteps true tags) ctx mergedSha).exec n
    let plain := (finish (Git.client Script.runner policy) (r.withSteps false tags) ctx mergedSha).exec n'
    ((∃ e, audited.1 = .error e) ∧ audited.2.repo.calls = n.repo.calls) ∨
      (audited.1 = plain.1 ∧ SameButLog audited.2 plain.2) := by
  obtain ⟨log, rfl⟩ := h
  dsimp only
  rw [exec_finish_audit]
  cases SymlinkAudit.audited n.files n.workDir ctx.dir with
  | error e => exact Or.inl ⟨⟨e, rfl⟩, rfl⟩
  | ok _ =>
    obtain ⟨hout, hsame⟩ := agree_finish_sameButLog policy (r.withSteps false tags) ctx mergedSha
      (n.noting (SymlinkAudit.auditRecords n.files n.workDir ctx.dir)) { n with log := log } ⟨log, rfl⟩
    exact Or.inr ⟨hout.eq, hsame⟩

/-- **Tags at the end of a run** add calls, and keep a result if they keep the run from failing. -/
theorem finish_tags_unseen (audit : Bool) (h : SameButLog n n') :
    let plain := (finish (Git.client Script.runner policy) (r.withSteps audit false) ctx mergedSha).exec n
    let tagged := (finish (Git.client Script.runner policy) (r.withSteps audit true) ctx mergedSha).exec n'
    plain.2.repo.calls <+: tagged.2.repo.calls ∧ ∀ result, tagged.1 = .ok result → plain.1 = .ok result := by
  obtain ⟨hout, log, hlog⟩ := agree_finish_sameButLog policy (r.withSteps audit false) ctx mergedSha n n' h
  dsimp only
  rw [finish_tags, Run.exec_bind]
  generalize (finish (Git.client Script.runner policy) (r.withSteps audit false) ctx mergedSha).exec n = plain
    at hout hlog ⊢
  cases htagged : (finish (Git.client Script.runner policy) (r.withSteps audit false) ctx mergedSha).exec n' with
  | mk o m₁ =>
    rw [htagged] at hout hlog
    have hcalls : m₁.repo.calls = plain.2.repo.calls := by rw [show m₁ = _ from hlog]
    cases o with
    | error e => exact ⟨⟨[], by rw [List.append_nil, hcalls]⟩, fun result hresult => by cases hresult⟩
    | ok result =>
      have hmore := calls_prefix_reportTags policy ctx m₁
      rw [hcalls] at hmore
      dsimp only
      rw [Run.exec_bind]
      generalize (reportTags (Git.client Script.runner policy) ctx).exec m₁ = reported at hmore
      obtain ⟨o', m₂⟩ := reported
      cases o' with
      | error e => exact ⟨hmore, fun result hresult => by cases hresult⟩
      | ok _ => exact ⟨hmore, fun result' hresult => hout.eq.trans hresult⟩

end Ends

/-! ## The whole run -/

section Runs

variable (policy : RetryPolicy) (r : CloneRequest) (m : Machine Script)

/-- The calls up to the audit are the same with it and without it, and are the first calls of the run. -/
theorem calls_untilAudit (audit tags : Bool) :
    ((untilAudit (Git.client Script.runner policy) (r.withSteps audit tags)).exec m).2.repo.calls =
        ((untilAudit (Git.client Script.runner policy) (r.withSteps false tags)).exec m).2.repo.calls ∧
      ((untilAudit (Git.client Script.runner policy) (r.withSteps audit tags)).exec m).2.repo.calls <+:
        ((run (Git.client Script.runner policy) (r.withSteps audit tags)).exec m).2.repo.calls := by
  cases opens policy r m with
  | fails e base hfails =>
    obtain ⟨n, hn, hbegun, hended⟩ := hfails audit tags
    obtain ⟨n', hn', hplain, -⟩ := hfails false tags
    rw [hbegun, hplain, hended]
    exact ⟨congrArg Script.calls (hn.repo.trans hn'.repo.symm), List.prefix_refl _⟩
  | reaches ctx mergedSha base hreaches =>
    obtain ⟨n, hn, hbegun, hended⟩ := hreaches audit tags
    obtain ⟨n', hn', hplain, -⟩ := hreaches false tags
    rw [hbegun, hplain, hended]
    exact ⟨congrArg Script.calls (hn.repo.trans hn'.repo.symm),
      calls_prefix_finish policy (r.withSteps audit tags) ctx mergedSha n⟩

/-- **Tags** add calls to a run, and do not change its result. -/
theorem tags_unseen (audit : Bool) :
    let plain := (run (Git.client Script.runner policy) (r.withSteps audit false)).exec m
    let tagged := (run (Git.client Script.runner policy) (r.withSteps audit true)).exec m
    plain.2.repo.calls <+: tagged.2.repo.calls ∧ ∀ result, tagged.1 = .ok result → plain.1 = .ok result := by
  intro plain tagged
  cases opens policy r m with
  | fails e base hfails =>
    obtain ⟨n, hn, -, hplain⟩ := hfails audit false
    obtain ⟨n', hn', -, htagged⟩ := hfails audit true
    change plain = _ at hplain
    change tagged = _ at htagged
    rw [hplain, htagged]
    refine ⟨⟨[], ?_⟩, fun result hresult => by cases hresult⟩
    rw [List.append_nil, hn.repo, hn'.repo]
  | reaches ctx mergedSha base hreaches =>
    obtain ⟨n, hn, -, hplain⟩ := hreaches audit false
    obtain ⟨n', hn', -, htagged⟩ := hreaches audit true
    change plain = _ at hplain
    change tagged = _ at htagged
    rw [hplain, htagged]
    exact finish_tags_unseen policy r ctx mergedSha audit (hn.both hn')

/-- **An audit** ends a run after the calls up to it, or is seen in the log only. -/
theorem audit_unseen (tags : Bool) :
    let audited := (run (Git.client Script.runner policy) (r.withSteps true tags)).exec m
    let plain := (run (Git.client Script.runner policy) (r.withSteps false tags)).exec m
    ((∃ e, audited.1 = .error e) ∧ audited.2.repo.calls =
        ((untilAudit (Git.client Script.runner policy) (r.withSteps true tags)).exec m).2.repo.calls) ∨
      (audited.1 = plain.1 ∧ SameButLog audited.2 plain.2) := by
  intro audited plain
  cases opens policy r m with
  | fails e base hfails =>
    obtain ⟨n, -, hbegun, haudited⟩ := hfails true tags
    change audited = _ at haudited
    rw [hbegun, haudited]
    exact Or.inl ⟨⟨e, rfl⟩, rfl⟩
  | reaches ctx mergedSha base hreaches =>
    obtain ⟨n, hn, hbegun, haudited⟩ := hreaches true tags
    obtain ⟨n', hn', -, hplain⟩ := hreaches false tags
    change audited = _ at haudited
    change plain = _ at hplain
    rw [hbegun, haudited, hplain]
    refine (finish_audit_unseen policy r ctx mergedSha tags (hn.both hn')).imp_right fun hsame => ?_
    obtain ⟨hout, log, hlog⟩ := hsame
    refine ⟨hout, log, ?_⟩
    unfold leaving
    rw [hlog]

end Runs

/-- **Optional steps are not seen.** Whatever else a request asks for, whatever the files are and whatever git
answers: a run that fetches tags makes the calls of one that does not, and more after them, and if it ends with
a result, then so does the other one, with the same. The calls up to the audit are the same with and without
the audit, and are the first ones of either run; and if a run with the audit ends with a result, then the run
without it ends with the same result, and with the same calls and files. -/
theorem optional_steps_unseen (policy : RetryPolicy) (r : CloneRequest) (m : Machine Script) :
    let ended := fun audit tags => (run (Git.client Script.runner policy) (r.withSteps audit tags)).exec m
    let begun := fun audit tags =>
      (untilAudit (Git.client Script.runner policy) (r.withSteps audit tags)).exec m
    (∀ audit,
      (ended audit false).2.repo.calls <+: (ended audit true).2.repo.calls ∧
      ∀ result, (ended audit true).1 = .ok result → (ended audit false).1 = .ok result) ∧
    ∀ tags,
      (begun true tags).2.repo.calls = (begun false tags).2.repo.calls ∧
      (∀ audit, (begun audit tags).2.repo.calls <+: (ended audit tags).2.repo.calls) ∧
      ∀ result, (ended true tags).1 = .ok result →
        (ended false tags).1 = .ok result ∧
          (ended true tags).2.repo.calls = (ended false tags).2.repo.calls ∧
          (ended true tags).2.files = (ended false tags).2.files := by
  intro ended begun
  refine ⟨fun audit => tags_unseen policy r m audit, fun tags => ⟨(calls_untilAudit policy r m true tags).1,
    fun audit => (calls_untilAudit policy r m audit tags).2, fun result hresult => ?_⟩⟩
  obtain ⟨⟨e, herror⟩, -⟩ | ⟨hout, hsame⟩ := audit_unseen policy r m tags
  · exact absurd (herror.symm.trans hresult) (by simp)
  · exact ⟨hout.symm.trans hresult, congrArg Script.calls hsame.repo.symm, hsame.files.symm⟩

/-- A checkout of a link that stays inside, with both steps. -/
theorem optional_steps_unseen_of_link_inside :
    let r := { CloneRequest.new "https://git.example/x" with outputDir := "/work/source" }
    let m : Machine Script := Machine.bare ⟨["work"],
      [("checkout", [⟨[⟨"source/here", .link ".", none⟩], .ok .silent⟩]),
        ("rev-parse", [⟨[], .ok ⟨"0123456789", "", 0⟩⟩, ⟨[], .ok ⟨"0123456", "", 0⟩⟩])], []⟩
    let ended := fun audit tags => (run (Git.client Script.runner .default) (r.withSteps audit tags)).exec m
    let result : CloneResult := ⟨"https://git.example/x", "0123456789", "0123456", "", none⟩
    (ended true true).1 = .ok result ∧ (ended true false).1 = .ok result ∧
      (ended true false).2.repo.calls <+: (ended true true).2.repo.calls ∧
      (ended false false).1 = .ok result ∧
      (ended true false).2.repo.calls = (ended false false).2.repo.calls ∧
      (ended true false).2.files = (ended false false).2.files := by
  intro r m ended result
  have hsucceeds : (ended true true).1.toOption = some result := by decide +kernel
  have hresult := congrArg Prod.fst (Run.exec_eq_of_toOption hsucceeds)
  have hunseen := optional_steps_unseen .default r m
  -- Were the runs not written alike, comparing two of them would carry them out.
  dsimp only [ended] at hresult hunseen ⊢
  obtain ⟨htags, haudit⟩ := hunseen
  have hplain := (htags true).2 result hresult
  exact ⟨hresult, hplain, (htags true).1, (haudit false).2.2 result hplain⟩

end Clone

end Checkout
