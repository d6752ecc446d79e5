import Checkout.CommandLine.Program
import Checkout.Proofs.Clone.Ground

/-!
# Failures before the first call

A run can fail before it calls git: because its request makes no sense, because its credentials cannot be
staged, or because what is to be emptied is no directory. These phases follow each other, and the first one
that fails decides the error. Nothing is left of such a run: credentials are staged before anything is
emptied, and what was staged goes with the private directory.

Results:
* `prepared_of_occupied`: nothing is emptied if there is no directory to empty;
* `early_failure`: what a run that fails early leaves.
-/

namespace Checkout

open Clone CommandLine

variable {ρ : Type} {m m₁ : Machine ρ} {r : CloneRequest}

/-- What is left after a removal was there before. -/
theorem FileSystem.keeps_of_remove {fs fs' : FileSystem} {P : Location} (hP : P ≠ [])
    (h : fs'.remove P = fs) : FileSystem.Keeps fs fs' := by
  intro l e he
  rw [← h, get?_remove hP] at he
  by_cases hprefix : P.isPrefixOf l = true
  · rw [if_pos hprefix] at he
    cases he
  · rw [if_neg hprefix] at he
    exact ⟨e, he, rfl⟩

/-! ## Emptying what is no directory -/

namespace Clone

/-- The directory of the checkout is to be emptied, but its path name leads to something else. -/
def Occupied (r : CloneRequest) (m : Machine ρ) : Prop :=
  r.deleteExisting = true ∧
    ∃ l e, m.files.locate m.workDir r.checkoutDir = .ok (l, e) ∧ e.isDir = false

/-- How a run fails before its first call: with the error of the first phase that fails. -/
inductive FailsEarly (r : CloneRequest) (m : Machine ρ) : Error → Prop
  | rejected {e : Error} : r.validate = .error e → FailsEarly r m e
  | unstaged {e : Error} : r.validate = .ok () → (staged r m).1 = .error e → FailsEarly r m e
  | occupied {env : GitEnvironment} : r.validate = .ok () → (staged r m).1 = .ok env → Occupied r m →
      FailsEarly r m (Workspace.notDirectory r.checkoutDir)

/-- Where one of the phases fails, there is a first one. -/
theorem exists_failsEarly
    (h : (∃ e, r.validate = .error e) ∨ (∃ e, (staged r m).1 = .error e) ∨ Occupied r m) :
    ∃ e, FailsEarly r m e := by
  cases hvalid : r.validate with
  | error e => exact ⟨e, .rejected hvalid⟩
  | ok _ =>
    cases hstaged : (staged r m).1 with
    | error e => exact ⟨e, .unstaged hvalid hstaged⟩
    | ok env =>
      rcases h with ⟨e, he⟩ | ⟨e, he⟩ | hoccupied
      · rw [hvalid] at he
        cases he
      · rw [hstaged] at he
        cases he
      · exact ⟨_, .occupied hvalid hstaged hoccupied⟩

/-- **Nothing is emptied** if there is no directory to empty: the machine is as staging has left it. -/
theorem prepared_of_occupied {env : GitEnvironment} (hroom : HasRoom m) (hoccupied : Occupied r m)
    (hstaged : staged r m = (.ok env, m₁)) :
    prepared r m = (.error (Workspace.notDirectory r.checkoutDir), m₁) := by
  obtain ⟨hdelete, l, e, hfound, hdir⟩ := hoccupied
  obtain ⟨-, hremove, hhere, -⟩ := kept_staged hroom r
  rw [hstaged] at hremove hhere
  -- Staging has kept what the path name leads to.
  obtain ⟨e', hfound', hkind⟩ := (FileSystem.keeps_of_remove hroom.ne_nil hremove).locate hfound
  have hdir' : e'.isDir = false := (Entry.isDir_of_kind_eq hkind).trans hdir
  rw [← hhere] at hfound'
  have hclean := Workspace.exec_clean_of_not_dir hfound' hdir'
  rw [prepared_of_staged hstaged]
  unfold clearGround
  rw [if_pos hdelete]
  exact Run.exec_bind_error (Run.exec_bind_error hclean)

/-- However a run fails early, setting up has not come beyond staging. -/
theorem exec_run_of_failsEarly (client : RepositoryClient ρ) {e : Error} (hroom : HasRoom m)
    (h : FailsEarly r m e) :
    ((run client r).exec m).1 = .error e ∧ ((run client r).exec m).2.repo = m.repo ∧
      ((run client r).exec m).2.files = m.files := by
  obtain ⟨-, hremove, -, -⟩ := kept_staged hroom r
  have hstopped : ∀ {m₁ : Machine ρ}, r.validate = .ok () → prepared r m = (.error e, m₁) →
      m₁.files = (staged r m).2.files →
      ((run client r).exec m).1 = .error e ∧ ((run client r).exec m).2.repo = m.repo ∧
        ((run client r).exec m).2.files = m.files := by
    intro m₁ hvalid hprepared hfiles
    have hrepo := prepared_repo r m
    rw [hprepared] at hrepo
    rw [exec_run_of_not_prepared client hvalid hprepared]
    exact ⟨rfl, hrepo, by rw [← hremove, ← hfiles]⟩
  cases h with
  | rejected hvalid =>
    rw [exec_run_of_not_valid client m hvalid]
    exact ⟨rfl, rfl, rfl⟩
  | unstaged hvalid herror =>
    have hstaged : staged r m = (.error e, (staged r m).2) := Prod.ext herror rfl
    exact hstopped hvalid (prepared_of_not_staged hstaged) rfl
  | occupied hvalid hok hoccupied =>
    have hstaged : staged r m = (.ok _, (staged r m).2) := Prod.ext hok rfl
    exact hstopped hvalid (prepared_of_occupied hroom hoccupied hstaged) rfl

end Clone

/-- The command refuses a request that makes no sense without looking for git, and changes nothing. -/
theorem CommandLine.Program.print_of_not_valid (isInstalled : Bool) (runner : Runner ρ) (i : Invocation)
    {e : Error} (hvalid : i.request.validate = .error e) (m : Machine ρ) :
    Program.print isInstalled runner i m = (("", .error e), m) := by
  have hcheckout : (Program.checkout isInstalled runner i.request).exec m = (.error e, m) := by
    unfold Program.checkout
    rw [hvalid]
    exact Run.exec_bind_error (Run.exec_ofExcept _ _)
  unfold Program.print
  simp only [bind, StateT.bind,
    show ExceptT.run (Program.checkout isInstalled runner i.request) m = (.error e, m) from hcheckout]
  rfl

/-- **Early failures have no effect.** If a request makes no sense, or its credentials cannot be staged, or
what is to be emptied is no directory, then the run ends with the error of the first of these, git is not
called, the files are what they were, and there is no private directory. A request that makes no sense is
refused by the command before it looks for git. -/
theorem early_failure (policy : RetryPolicy) (r : CloneRequest) (m : Machine Script) (hroom : HasRoom m)
    (h : (∃ e, r.validate = .error e) ∨ (∃ e, (staged r m).1 = .error e) ∨ Occupied r m) :
    ∃ e, FailsEarly r m e ∧
      ((run (Git.client Script.runner policy) r).exec m).1 = .error e ∧
      ((run (Git.client Script.runner policy) r).exec m).2.repo = m.repo ∧
      ((run (Git.client Script.runner policy) r).exec m).2.files = m.files ∧
      (∀ l, m.scratch <+: l →
        ((run (Git.client Script.runner policy) r).exec m).2.files.get? l = none) ∧
      ∀ (isInstalled : Bool) (runner : Runner Script) (i : Invocation), i.request = r →
        r.validate = .error e → Program.print isInstalled runner i m = (("", .error e), m) := by
  obtain ⟨e, he⟩ := exists_failsEarly h
  obtain ⟨houtcome, hrepo, hfiles⟩ := exec_run_of_failsEarly (Git.client Script.runner policy) hroom he
  refine ⟨e, he, houtcome, hrepo, hfiles, fun l hl => ?_, fun isInstalled runner i hi hvalid => ?_⟩
  · rw [hfiles]
    by_cases hsame : l = m.scratch
    · rw [hsame]
      exact hroom.free
    · exact FileSystem.get?_eq_none_of_below hroom.empty (FileSystem.isBelow_iff.mpr ⟨hl, hsame⟩)
  · subst hi
    exact CommandLine.Program.print_of_not_valid isInstalled runner i hvalid m

/-- A directory of credentials without a layout, for a checkout that would be emptied. -/
theorem early_failure_of_no_layout :
    let r := { CloneRequest.new "https://git.example/x" with
      outputDir := "/work/source", deleteExisting := true, basicAuthDirectory := some "/auth" }
    let m : Machine Script := { Machine.bare ⟨["work"], [], []⟩ with
      files := ⟨[(["work"], .dir 0o755), (["work", "source"], .dir 0o755),
        (["work", "source", "old"], .file [0] 0o644), (["auth"], .dir 0o755),
        (["auth", "token"], .file [116] 0o644)]⟩ }
    HasRoom m ∧ (∃ e, (staged r m).1 = .error e) ∧
      ∃ e, FailsEarly r m e ∧
        ((run (Git.client Script.runner .default) r).exec m).1 = .error e ∧
        ((run (Git.client Script.runner .default) r).exec m).2.repo = m.repo ∧
        ((run (Git.client Script.runner .default) r).exec m).2.files = m.files ∧
        (∀ l, m.scratch <+: l →
          ((run (Git.client Script.runner .default) r).exec m).2.files.get? l = none) ∧
        ∀ (isInstalled : Bool) (runner : Runner Script) (i : Invocation), i.request = r →
          r.validate = .error e → Program.print isInstalled runner i m = (("", .error e), m) := by
  intro r m
  have hroom : HasRoom m :=
    { named := by decide, reached := ⟨by decide, by decide⟩, short := by decide
      free := by rfl, empty := by rfl }
  have hnot : (staged r m).1.isOk = false := by decide +kernel
  have hstaged : ∃ e, (staged r m).1 = .error e := by
    cases hout : (staged r m).1 with
    | error e => exact ⟨e, rfl⟩
    | ok env =>
      rw [hout] at hnot
      cases hnot
  exact ⟨hroom, hstaged, early_failure .default r m hroom (Or.inr (Or.inl hstaged))⟩

end Checkout
