import Checkout.Proofs.Clone.Context
import Checkout.Proofs.Clone.Footprint

/-!
# The CA bundle as git finds it

Staging looks for the CA bundle from the working directory, and exports its path name as it was given. A
call of git looks for it later, and from the directory of the checkout. So an absolute path name leads git
to the same file if nothing was cleared away, but a relative one does so only if it leads there from the
directory of the checkout as well.

Results:
* `unrolled_inCheckout`: every call finds what was there before the first one;
* `ca_bundle_found_iff`: when the calls of a run find the bundle that staging found.
-/

namespace Checkout

open Clone

/-! ## Path names seen from a process -/

namespace FileSystem

variable {fs fs' : FileSystem} {here l : Location} {dir path : ByteString} {e : Entry}

/-- What a path name leads to for a process in a directory. -/
def locateFrom (fs : FileSystem) (here : Location) (dir path : ByteString) :
    Except IoError (Location × Entry) :=
  if Pathname.isAbsolute path then fs.locate here path
  else
    match fs.locate here dir with
    | .ok (l, _) => fs.locate l path
    | .error e => .error e

/-- A process in a directory finds a file at a location under a path name. -/
def FindsFile (fs : FileSystem) (here : Location) (dir path : ByteString) (l : Location) : Prop :=
  ∃ e, fs.locateFrom here dir path = .ok (l, e) ∧ e.isFile = true

theorem Keeps.locateFrom (h : Keeps fs fs') (hfound : fs.locateFrom here dir path = .ok (l, e)) :
    ∃ e', fs'.locateFrom here dir path = .ok (l, e') ∧ e'.kind = e.kind := by
  unfold FileSystem.locateFrom at hfound ⊢
  by_cases habsolute : Pathname.isAbsolute path = true
  · rw [if_pos habsolute] at hfound ⊢
    exact h.locate hfound
  · rw [if_neg habsolute] at hfound ⊢
    cases hdir : fs.locate here dir with
    | error err =>
      rw [hdir] at hfound
      cases hfound
    | ok found =>
      obtain ⟨at_, d⟩ := found
      rw [hdir] at hfound
      obtain ⟨d', hdir', -⟩ := h.locate hdir
      rw [hdir']
      exact h.locate hfound

theorem FindsFile.keep (hfile : FindsFile fs here dir path l) (h : Keeps fs fs') :
    FindsFile fs' here dir path l := by
  obtain ⟨e, hfound, he⟩ := hfile
  obtain ⟨e', hfound', hkind⟩ := h.locateFrom hfound
  exact ⟨e', hfound', (Entry.isFile_of_kind_eq hkind).trans he⟩

end FileSystem

open FileSystem (FindsFile)

/-! ## Call by call -/

section Unrolled

variable {ground : FileSystem} {ctx : RepoContext} {r : CloneRequest} {policy : RetryPolicy}

/-- Where a run in the directory of the checkout stands, on film: what was there at its beginning is still
there, and was at each call; the first call found nothing else. -/
structure Unrolled (ground : FileSystem) (ctx : RepoContext) (m : Machine Script)
    (n : Machine (Filmed Script)) : Prop where
  filmed : n = m.filmed n.repo.shots
  kept : FileSystem.Keeps ground m.files
  begun : n.repo.shots = [] → m.files = ground
  first : ∀ shot ∈ n.repo.shots.head?, shot.files = ground
  shots : ∀ shot ∈ n.repo.shots, shot.command = Git.command ctx shot.command.args ∧
    FileSystem.Keeps ground shot.files

/-- Before the first call. -/
theorem unrolled_start (ctx : RepoContext) (m : Machine Script) : Unrolled m.files ctx m (m.filmed []) where
  filmed := rfl
  kept := .refl m.files
  begun := fun _ => rfl
  first := fun shot hshot => by cases hshot
  shots := fun shot hshot => by cases hshot

theorem patient_unrolled : Patient (Unrolled ground ctx) where
  noting := fun h records => { h with filmed := by rw [h.filmed]; rfl }
  resting := fun h d => { h with filmed := by rw [h.filmed]; rfl }

/-- **A call of git** takes nothing away. -/
theorem Unrolled.answered {m : Machine Script} {n : Machine (Filmed Script)} (h : Unrolled ground ctx m n)
    (args : List String) :
    Unrolled ground ctx (m.answered (Git.command ctx args))
      ((m.answered (Git.command ctx args)).filmed
        (n.repo.shots ++ [Shot.mk (Git.command ctx args) m.files])) where
  filmed := rfl
  kept := h.kept.trans (FileSystem.keeps_createAll _ _ _)
  begun := fun hnone => absurd hnone (by simp [Machine.filmed])
  first := fun shot hshot => by
    change shot ∈ (n.repo.shots ++ [Shot.mk (Git.command ctx args) m.files]).head? at hshot
    cases hshots : n.repo.shots with
    | nil =>
      rw [hshots] at hshot
      cases hshot
      exact h.begun hshots
    | cons s rest =>
      rw [hshots] at hshot
      have hsame : s = shot := Option.some.inj hshot
      refine h.first shot ?_
      rw [hshots, hsame]
      rfl
  shots := fun shot hshot => by
    rcases List.mem_append.mp hshot with hshot | hshot
    · exact h.shots shot hshot
    · rw [List.mem_singleton.mp hshot]
      exact ⟨rfl, h.kept⟩

/-- **A run in the directory of the checkout**, call by call. -/
theorem unrolled_inCheckout :
    Agree (Unrolled ground ctx) Eq (inCheckout (Git.client Script.runner policy) r ctx)
      (inCheckout (Git.client (Runner.filmed Script.runner) policy) r ctx) :=
  agree_inCheckout_filmed patient_unrolled (fun h => h.filmed) fun h args => h.answered args

/-- A run in the directory of the checkout takes nothing away. -/
theorem keeps_inCheckout (policy : RetryPolicy) (r : CloneRequest) (ctx : RepoContext) (m : Machine Script) :
    FileSystem.Keeps m.files ((inCheckout (Git.client Script.runner policy) r ctx).exec m).2.files := by
  have hagree : Agree (Unrolled m.files ctx) Eq (inCheckout (Git.client Script.runner policy) r ctx)
      (inCheckout (Git.client (Runner.filmed Script.runner) policy) r ctx) := unrolled_inCheckout
  exact (hagree m (m.filmed []) (unrolled_start ctx m)).2.kept

end Unrolled

/-! ## The whole run -/

namespace Clone

variable {r : CloneRequest} {env : GitEnvironment} {m m₁ : Machine Script}

/-- A run on film. -/
def film (policy : RetryPolicy) (r : CloneRequest) (m : Machine Script) :
    Except Error CloneResult × Machine (Filmed Script) :=
  (run (Git.client (Runner.filmed Script.runner) policy) r).exec (m.filmed [])

/-- **A run that was set up, on film.** Filming it changes nothing. -/
theorem film_of_prepared (policy : RetryPolicy) (hvalid : r.validate = .ok ())
    (hprepared : prepared r m = (.ok env, m₁)) :
    (film policy r m).1 = ((run (Git.client Script.runner policy) r).exec m).1 ∧
      (film policy r m).2.unfilmed = ((run (Git.client Script.runner policy) r).exec m).2 ∧
      ∃ m₂, Unrolled m₁.files ⟨r.checkoutDir, env⟩ m₂ (m₂.filmed (film policy r m).2.repo.shots) := by
  have hfilmed := prepared_filmed r m
  rw [hprepared] at hfilmed
  have hagree : Agree (Unrolled m₁.files ⟨r.checkoutDir, env⟩) Eq
      (inCheckout (Git.client Script.runner policy) r ⟨r.checkoutDir, env⟩)
      (inCheckout (Git.client (Runner.filmed Script.runner) policy) r ⟨r.checkoutDir, env⟩) :=
    unrolled_inCheckout
  obtain ⟨hend, hdone⟩ := hagree m₁ (m₁.filmed []) (unrolled_start _ _)
  unfold film
  rw [exec_run_of_prepared _ hvalid hprepared, exec_run_of_prepared _ hvalid hfilmed]
  generalize (inCheckout (Git.client Script.runner policy) r ⟨r.checkoutDir, env⟩).exec m₁ = x
    at hend hdone ⊢
  generalize (inCheckout (Git.client (Runner.filmed Script.runner) policy) r
    ⟨r.checkoutDir, env⟩).exec (m₁.filmed []) = y at hend hdone ⊢
  obtain ⟨o, m₂⟩ := x
  obtain ⟨o', n₂⟩ := y
  obtain ⟨shots, rfl⟩ : ∃ shots, n₂ = m₂.filmed shots := ⟨_, hdone.filmed⟩
  exact ⟨hend.eq.symm, rfl, m₂, hdone⟩

/-- A run that makes no call has no shots. -/
theorem film_of_not_prepared (policy : RetryPolicy)
    (h : ∀ env, r.validate = .ok () → (prepared r m).1 ≠ .ok env) :
    (film policy r m).2.repo.shots = [] := by
  unfold film
  cases hvalid : r.validate with
  | error e =>
    rw [exec_run_of_not_valid _ _ hvalid]
    rfl
  | ok _ =>
    have hfilmed := prepared_filmed r m
    cases hprepared : prepared r m with
    | mk o m₁ =>
      rw [hprepared] at hfilmed h
      cases o with
      | error e =>
        rw [exec_run_of_not_prepared _ hvalid hfilmed]
        rfl
      | ok env => exact absurd rfl (h env hvalid)

/-- Setting up takes nothing away unless it is told to. -/
theorem keeps_prepared {m₁ : Machine Script} (hdelete : r.deleteExisting = false)
    (hprepared : prepared r m = (.ok env, m₁)) :
    FileSystem.Keeps (Run.enterPrivateDir m).files m₁.files := by
  obtain ⟨m₀, hstaged⟩ := staged_of_prepared hprepared
  obtain ⟨-, -, hkeeps⟩ := found_of_staged hstaged
  rw [prepared_of_staged hstaged] at hprepared
  obtain ⟨_, m₂, hclear, hpure⟩ := Run.exec_bind_eq_ok hprepared
  cases hpure
  have hnot : ¬ r.deleteExisting = true := by
    rw [hdelete]
    decide
  unfold clearGround Workspace.prepare at hclear
  rw [if_neg hnot, Run.exec_makeDirs] at hclear
  have hfiles : (m₀.files.makeDirs m₀.workDir r.checkoutDir).1 = m₁.files :=
    congrArg Machine.files (Prod.mk.inj hclear).2
  rw [← hfiles]
  exact hkeeps.trans (FileSystem.keeps_makeDirs _ _ _)

/-- **When git finds the CA bundle.** All calls of a run export the bundle that staging has found, by the
path name that it was found under. They find the file that staging has found if and only if this path name
leads there from the directory of the checkout too, once that is cleared and made. An absolute path name of
a file does so if nothing is cleared. -/
theorem ca_bundle_found_iff (policy : RetryPolicy) (r : CloneRequest) (m : Machine Script) {value : ByteString}
    (hexported : ∃ shot ∈ (film policy r m).2.repo.shots, ("GIT_SSL_CAINFO", value) ∈ shot.command.env) :
    (film policy r m).1 = ((run (Git.client Script.runner policy) r).exec m).1 ∧
      (film policy r m).2.unfilmed = ((run (Git.client Script.runner policy) r).exec m).2 ∧
      ∃ l e, (Run.enterPrivateDir m).files.locate m.workDir value = .ok (l, e) ∧
        (∀ shot ∈ (film policy r m).2.repo.shots, shot.command.dir = some r.checkoutDir ∧
          ("GIT_SSL_CAINFO", value) ∈ shot.command.env) ∧
        ((∀ shot ∈ (film policy r m).2.repo.shots,
            FindsFile shot.files m.workDir r.checkoutDir value l) ↔
          FindsFile (prepared r m).2.files m.workDir r.checkoutDir value l) ∧
        (Pathname.isAbsolute value = true → r.deleteExisting = false → e.isFile = true →
          ∀ shot ∈ (film policy r m).2.repo.shots,
            FindsFile shot.files m.workDir r.checkoutDir value l) := by
  obtain ⟨shot₀, hshot₀, hvalue⟩ := hexported
  have hsetUp : ∃ env, r.validate = .ok () ∧ (prepared r m).1 = .ok env := by
    by_contra hnot
    rw [film_of_not_prepared policy fun env hvalid henv => hnot ⟨env, hvalid, henv⟩] at hshot₀
    cases hshot₀
  obtain ⟨env, hvalid, henv⟩ := hsetUp
  have hprepared : prepared r m = (.ok env, (prepared r m).2) := Prod.ext henv rfl
  obtain ⟨houtcome, hunfilmed, m₂, hunrolled⟩ := film_of_prepared policy hvalid hprepared
  have hshots := hunrolled.shots
  have hfirst := hunrolled.first
  change ∀ shot ∈ (film policy r m).2.repo.shots, _ at hshots
  change ∀ shot ∈ (film policy r m).2.repo.shots.head?, _ at hfirst
  -- All calls have the variables of the same environment, and this one is of staging.
  have henv₀ : shot₀.command.env = env.vars := by
    rw [(hshots shot₀ hshot₀).1]
    rfl
  rw [henv₀] at hvalue
  obtain ⟨m₀, hstaged⟩ := staged_of_prepared hprepared
  obtain ⟨-, hexists⟩ := ((found_of_staged hstaged).1.variables.caInfo value).mp hvalue
  obtain ⟨l, e, hfound⟩ : ∃ l e,
      (Run.enterPrivateDir m).files.locate m.workDir value = .ok (l, e) := by
    unfold FileSystem.pathExists at hexists
    cases hlocate : (Run.enterPrivateDir m).files.locate m.workDir value with
    | error err =>
      rw [hlocate] at hexists
      cases hexists
    | ok found => exact ⟨found.1, found.2, rfl⟩
  have hall : FindsFile (prepared r m).2.files m.workDir r.checkoutDir value l →
      ∀ shot ∈ (film policy r m).2.repo.shots, FindsFile shot.files m.workDir r.checkoutDir value l :=
    fun hfile shot hshot => hfile.keep (hshots shot hshot).2
  refine ⟨houtcome, hunfilmed, l, e, hfound, fun shot hshot => ?_, ⟨fun hfind => ?_, hall⟩, ?_⟩
  · rw [(hshots shot hshot).1]
    exact ⟨rfl, hvalue⟩
  · -- There is a call, and the first one is made with the files as they were set up.
    cases hlist : (film policy r m).2.repo.shots with
    | nil =>
      rw [hlist] at hshot₀
      cases hshot₀
    | cons shot rest =>
      have hground := hfirst shot (by rw [hlist]; rfl)
      rw [← hground]
      exact hfind shot (by rw [hlist]; exact List.mem_cons_self)
  · intro habsolute hdelete hfile
    obtain ⟨e', hfound', hkind⟩ := (keeps_prepared hdelete hprepared).locate hfound
    refine hall ⟨e', ?_, (Entry.isFile_of_kind_eq hkind).trans hfile⟩
    unfold FileSystem.locateFrom
    rw [if_pos habsolute]
    exact hfound'

/-- A relative path name of a bundle in the working directory: staging finds it, and git does not. -/
theorem ca_bundle_not_found_of_relative :
    let r := { CloneRequest.new "https://git.example/x" with
      outputDir := "/work/source", caBundlePath := some "ca.crt" }
    let m : Machine Script := { Machine.bare ⟨["work"], [], []⟩ with
      files := ⟨[(["work"], .dir 0o755), (["work", "ca.crt"], .file [67] 0o644)]⟩ }
    (∃ shot ∈ (film .default r m).2.repo.shots,
        ("GIT_SSL_CAINFO", ("ca.crt" : ByteString)) ∈ shot.command.env) ∧
      ∃ l e, (Run.enterPrivateDir m).files.locate m.workDir "ca.crt" = .ok (l, e) ∧ e.isFile = true ∧
        ¬ ∀ shot ∈ (film .default r m).2.repo.shots,
            FindsFile shot.files m.workDir r.checkoutDir "ca.crt" l := by
  intro r m
  have hexported : ∃ shot ∈ (film .default r m).2.repo.shots,
      ("GIT_SSL_CAINFO", ("ca.crt" : ByteString)) ∈ shot.command.env := by decide +kernel
  have hlost : ((prepared r m).2.files.locateFrom m.workDir r.checkoutDir "ca.crt").toOption = none := by
    decide +kernel
  have hfile : ((Run.enterPrivateDir m).files.locate m.workDir "ca.crt").toOption.map
      (fun found => found.2.isFile) = some true := by decide +kernel
  obtain ⟨-, -, l, e, hfound, -, hiff, -⟩ := ca_bundle_found_iff .default r m hexported
  rw [hfound] at hfile
  refine ⟨hexported, l, e, hfound, Option.some.inj hfile, fun hall => ?_⟩
  obtain ⟨e', he', -⟩ := hiff.mp hall
  rw [he'] at hlost
  cases hlost

end Clone

end Checkout
