import Checkout.Proofs.Clone.Room
import Checkout.Proofs.Clone.SetUp
import Checkout.Proofs.Credentials.Discretion
import Checkout.Proofs.Git.Canned

/-!
# Contents do not show

A run reads passwords, stored credentials and keys. None of it gets out of the private directory: what git
is told, what is logged and how the run ends depend on the outline of the files alone, as long as the files
that are read as text are text.

Setting up is discreet because staging is, and everything after it looks at the files to find the links in
the checkout and for nothing else.

Results:
* `agreeAt_setUp`: setting up agrees on machines that only the contents of files tell apart;
* `run_of_sameOutline`: runs on such machines end alike, and the machines stay such;
* `contents_unseen`: so no call, no record and no outcome shows the contents.
-/

namespace Checkout

open Clone
open FileSystem (Alike absolutePath)

variable {ρ : Type} {m n : Machine ρ} {ctx : RepoContext} {r : CloneRequest}

/-- There is room on both machines if there is room on one. -/
theorem HasRoom.sameOutline (hroom : HasRoom m) (h : SameOutline m n) : HasRoom n := by
  have hshort := hroom.short
  have hfree := hroom.free
  have hempty := hroom.empty
  rw [h.scratch] at hshort hfree hempty
  exact {
    named := h.files.named hroom.named
    reached := {
      ordinary := h.scratch ▸ hroom.reached.ordinary
      dirs := fun k hk => by
        rw [← h.scratch] at hk ⊢
        rw [← h.files.any_isDir_eq]
        exact hroom.reached.dirs k hk }
    short := hshort
    free := h.files.get?_eq_none hfree
    empty := h.files.below_eq_nil hempty }

theorem SameOutline.enterPrivateDir (h : SameOutline m n) :
    SameOutline (Run.enterPrivateDir m) (Run.enterPrivateDir n) := by
  have hput := h.withFiles (h.files.put m.scratch (.dir Run.privateDirMode))
  unfold Run.enterPrivateDir
  rw [← h.scratch]
  exact { hput with scratch := rfl }

/-! ## Setting up -/

/-- What there is to remove is the same. -/
theorem Workspace.removeChildren_alike {fs fs' : FileSystem} (h : Alike fs fs') (l : Location)
    (path : ByteString) : removeChildren (ρ := ρ) fs l path = removeChildren fs' l path := by
  simp only [removeChildren, h.childNames_eq, h.any_isDir_eq]

theorem Workspace.removeChildren_discreet (fs : FileSystem) (l : Location) (path : ByteString) :
    Agree (SameOutline : Machine ρ → Machine ρ → Prop) Eq (removeChildren fs l path)
      (removeChildren fs l path) :=
  agree_forM fun _ _ => SameOutline.alter fun here h => h.removeEntry here _ _

theorem Workspace.clean_discreet (path : ByteString) :
    Agree (SameOutline : Machine ρ → Machine ρ → Prop) Eq (clean path) (clean path) := by
  intro m n h
  refine agreeAt_clean h ?_
  rw [← h.workDir]
  obtain hfailed | ⟨l, e, e', hm, hn, hsame⟩ := h.files.locate m.workDir path
  · exact Or.inl hfailed
  · have hkeep : ∀ e : Entry, e.outline.isDir = e.isDir := fun e => Entry.isDir_mapContent
    refine Or.inr ⟨l, e, e', hm, hn, by rw [← hkeep e, hsame, hkeep e'], fun _ => ?_⟩
    rw [removeChildren_alike h.files]
    exact removeChildren_discreet _ _ _ _ _ (SameOutline.patient.noting h _)

/-- What staging reads as text is text, on a machine with a private directory. -/
def StagesText (r : CloneRequest) (m : Machine ρ) : Prop :=
  ∀ authDir, r.basicAuthDirectory = some authDir →
    Credentials.HasText (Run.enterPrivateDir m).files m.workDir authDir

/-- **Setting up is discreet.** -/
theorem agreeAt_setUp (h : SameOutline m n) (hroom : HasRoom m) (hm : StagesText r m)
    (hn : StagesText r n) :
    AgreeAt SameOutline Eq (setUp r (absolutePath m.scratch)) (setUp r (absolutePath m.scratch))
      (Run.enterPrivateDir m) (Run.enterPrivateDir n) := by
  have hroom' := hroom.sameOutline h
  have hprivate := hroom'.entered_private m.workDir (fun _ => False)
  have hbelow := hroom'.entered_below
  rw [← h.scratch] at hprivate hbelow
  have hstaged : AgreeAt SameOutline Eq
      (Credentials.stageInto (ρ := ρ) (credentialSource r) (absolutePath m.scratch))
      (Credentials.stageInto (credentialSource r) (absolutePath m.scratch)) (Run.enterPrivateDir m)
      (Run.enterPrivateDir n) := by
    refine Credentials.agreeAt_stageInto (credentialSource r) h.enterPrivateDir rfl (fun authDir hdir => ?_)
      (hroom.entered_private m.workDir _) hroom.entered_below hprivate hbelow
    have hright := hn authDir hdir
    rw [← h.workDir] at hright
    exact ⟨hm authDir hdir, hright⟩
  have hprepare : Agree (SameOutline : Machine ρ → Machine ρ → Prop) Eq
      (Workspace.prepare r.checkoutDir) (Workspace.prepare r.checkoutDir) := SameOutline.makeDirs _
  unfold setUp
  refine hstaged.bind fun env _ henv => ?_
  cases henv
  dsimp only
  refine agree_ite (fun _ => agree_then (Workspace.clean_discreet _) fun _ => ?_) fun _ => ?_ <;>
  exact agree_then hprepare fun _ => agree_pure rfl

/-! ## The directory of the checkout -/

theorem audit_discreet (path : ByteString) :
    Agree (SameOutline : Machine ρ → Machine ρ → Prop) Eq (SymlinkAudit.audit path)
      (SymlinkAudit.audit path) := by
  intro m n h
  rw [SymlinkAudit.exec_audit, SymlinkAudit.exec_audit, ← h.workDir, h.files.audited_eq,
    h.files.auditRecords_eq]
  exact ⟨alikeOutcome_refl _, SameOutline.patient.noting h _⟩

/-- A runner that does not look into files. -/
def Runner.Discreet (run : Runner ρ) : Prop :=
  ∀ c, Agree (SameOutline : Machine ρ → Machine ρ → Prop) Eq (run c) (run c)

theorem Runner.Discreet.logged {run : Runner ρ} (h : run.Discreet) : run.logged.Discreet :=
  fun c => agree_then (SameOutline.patient.write _ _ _) fun _ => h c

/-- **A script does not look into files.** -/
theorem Script.runner_discreet : Runner.Discreet Script.runner := by
  intro c m n h
  rw [exec_runner, exec_runner, h.repo]
  refine ⟨alikeOutcome_refl _, ?_⟩
  unfold Machine.answered
  rw [← h.repo]
  exact { h.withFiles (h.files.createAll _ _) with repo := rfl }

theorem inCheckout_discreet {run : Runner ρ} (hrun : run.Discreet) (policy : RetryPolicy) :
    Agree (SameOutline : Machine ρ → Machine ρ → Prop) Eq (inCheckout (Git.client run policy) r ctx)
      (inCheckout (Git.client run policy) r ctx) := by
  obtain ⟨hclient, hmerge, hcommit⟩ := lockstep_git SameOutline.patient fun args =>
    hrun (Git.command ctx args)
  exact hclient.inCheckout SameOutline.patient hmerge hcommit (audit_discreet _)

/-! ## The whole run -/

/-- **Runs on machines that only the contents of files tell apart end alike**, and leave such machines. -/
theorem run_of_sameOutline {run : Runner ρ} (hrun : run.Discreet) (policy : RetryPolicy)
    (h : SameOutline m n) (hroom : HasRoom m) (hm : StagesText r m) (hn : StagesText r n) :
    AgreeAt SameOutline Eq (Clone.run (Git.client run policy) r) (Clone.run (Git.client run policy) r)
      m n := by
  have hparameters := SameOutline.patient.noting h (parameterRecords (parameters r))
  unfold AgreeAt
  cases hvalid : r.validate with
  | error e =>
    rw [exec_run_of_not_valid _ m hvalid, exec_run_of_not_valid _ n hvalid]
    exact ⟨.error e, hparameters⟩
  | ok _ =>
    have hroom' : HasRoom (m.noting (parameterRecords (parameters r))) := { hroom with }
    obtain ⟨hout, hset⟩ : AgreeAt SameOutline Eq (setUp r (absolutePath m.scratch))
      (setUp r (absolutePath m.scratch)) (Run.enterPrivateDir (m.noting (parameterRecords (parameters r))))
      (Run.enterPrivateDir (n.noting (parameterRecords (parameters r)))) :=
      agreeAt_setUp hparameters hroom' hm hn
    rw [exec_run_of_valid _ m hvalid, exec_run_of_valid _ n hvalid]
    unfold prepared
    rw [← h.scratch]
    generalize (setUp r (absolutePath m.scratch)).exec
      (Run.enterPrivateDir (m.noting (parameterRecords (parameters r)))) = x at hout hset ⊢
    generalize (setUp r (absolutePath m.scratch)).exec
      (Run.enterPrivateDir (n.noting (parameterRecords (parameters r)))) = y at hout hset ⊢
    obtain ⟨o, m₁⟩ := x
    obtain ⟨o', n₁⟩ := y
    cases hout with
    | error e => exact ⟨.error e, hset.withFiles (hset.files.remove m.scratch)⟩
    | ok henv =>
      cases henv
      obtain ⟨hend, hdone⟩ := inCheckout_discreet hrun policy m₁ n₁ hset
      exact ⟨hend, hdone.withFiles (hdone.files.remove m.scratch)⟩

/-- **Contents do not show**: on files that only contents tell apart, git gets the same commands, with the
same arguments, directories and variables; the same is logged, at every level; and the run comes to the same
result or the same error. -/
theorem contents_unseen (run : Runner Script) (hrun : run ∈ [Script.runner, Script.runner.logged])
    (policy : RetryPolicy) (r : CloneRequest) (m : Machine Script) (other : FileSystem) (hroom : HasRoom m)
    (halike : Alike m.files other) (hm : StagesText r m) (hn : StagesText r { m with files := other }) :
    let first := (Clone.run (Git.client run policy) r).exec m
    let second := (Clone.run (Git.client run policy) r).exec { m with files := other }
    first.1 = second.1 ∧ first.2.repo.calls = second.2.repo.calls ∧ first.2.log = second.2.log := by
  intro first second
  have hdiscreet : run.Discreet := by
    simp only [List.mem_cons, List.not_mem_nil, or_false] at hrun
    rcases hrun with rfl | rfl
    · exact Script.runner_discreet
    · exact Script.runner_discreet.logged
  have hsame : SameOutline m { m with files := other } := ⟨halike, rfl, rfl, rfl, rfl, rfl, rfl⟩
  obtain ⟨hend, hleft⟩ := run_of_sameOutline hdiscreet policy hsame hroom hm hn
  exact ⟨hend.eq, congrArg Script.calls hleft.repo, hleft.log⟩

/-- Two passwords and two keys, which nobody can tell apart. -/
theorem contents_unseen_of_two_passwords :
    let r := { CloneRequest.new "https://git.example/x" with
      basicAuthDirectory := some "/auth", sshDirectory := some "/keys" }
    let files (password key : List UInt8) : FileSystem :=
      ⟨[(["work"], .dir 0o755), (["auth"], .dir 0o755), (["auth", "username"], .file [117] 0o644),
        (["auth", "password"], .file password 0o644), (["keys"], .dir 0o755),
        (["keys", "id_rsa"], .file key 0o600)]⟩
    let m : Machine Script := { Machine.bare ⟨[], [], []⟩ with files := files [112] [255] }
    let other := files [113, 10] [0, 1]
    let first := (Clone.run (Git.client Script.runner .default) r).exec m
    let second := (Clone.run (Git.client Script.runner .default) r).exec { m with files := other }
    HasRoom m ∧ Alike m.files other ∧ StagesText r m ∧ StagesText r { m with files := other } ∧
      m.files ≠ other ∧
      first.1 = second.1 ∧ first.2.repo.calls = second.2.repo.calls ∧ first.2.log = second.2.log := by
  intro r files m other first second
  have hroom : HasRoom m :=
    { named := by decide, reached := ⟨by decide, by decide⟩, short := by decide
      free := by rfl, empty := by rfl }
  have halike : Alike m.files other := by rfl
  have hm : StagesText r m := by
    rintro _ ⟨⟩ name hname
    simp only [List.mem_cons, List.not_mem_nil, or_false] at hname
    rcases hname with rfl | rfl | rfl <;> nofun
  have hn : StagesText r { m with files := other } := by
    rintro _ ⟨⟩ name hname
    simp only [List.mem_cons, List.not_mem_nil, or_false] at hname
    rcases hname with rfl | rfl | rfl <;> nofun
  have hdiffer : m.files ≠ other := by decide
  exact ⟨hroom, halike, hm, hn, hdiffer,
    contents_unseen Script.runner List.mem_cons_self .default r m other hroom halike hm hn⟩

end Checkout
