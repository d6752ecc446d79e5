import Checkout.Proofs.Clone.Ground
import Checkout.Proofs.Clone.Lockstep
import Checkout.Proofs.Clone.Transcript
import Checkout.Proofs.Git.Film
import Checkout.Proofs.Symlink.Survey

/-!
# The footprint of a run

What a run leaves in the files: the ground that it has cleared for git, and what the calls of git have
created on it, one after another. However the run ends, it takes nothing back and leaves nothing else, and
its private directory is gone. But at each call of git that directory was there, with the files that the
variables of the call name.

Results:
* `agree_inCheckout_filmed`, `rolling_inCheckout`: what holds call by call, on film;
* `run_footprint`: the footprint of a run.
-/

namespace Checkout

open Clone
open FileSystem (Beside)

/-! ## What a script creates -/

theorem Fixture.createAll_append (base : Location) (fs : FileSystem) (xs ys : List Fixture) :
    createAll base fs (xs ++ ys) = createAll base (createAll base fs xs) ys :=
  List.foldl_append

namespace Script

variable {s : Script} {P : Location}

/-- What the answers to commands create, one after another. -/
def created : Script → List Command → List Fixture
  | _, [] => []
  | s, c :: rest => (s.next (c.args.headD "")).effects ++ created (s.after c) rest

theorem created_append (s : Script) (front back : List Command) :
    s.created (front ++ back) = s.created front ++ (front.foldl after s).created back := by
  induction front generalizing s with
  | nil => rfl
  | cons c front ih => simp only [List.cons_append, created, List.foldl_cons, ih, List.append_assoc]

theorem base_foldl_after (s : Script) (calls : List Command) : (calls.foldl after s).base = s.base := by
  induction calls generalizing s with
  | nil => rfl
  | cons c calls ih => exact ih (s.after c)

/-- A script does not touch a location: nothing that it creates is named like it. -/
structure Bypasses (s : Script) (P : Location) : Prop where
  base : ¬ P <+: s.base
  answers : ∀ kept ∈ s.answers, ∀ answer ∈ kept.2, ∀ x ∈ answer.effects,
    Pathname.Avoids P x.path ∧ ∀ target, x.kind = .link target → Pathname.Avoids P target

namespace Bypasses

theorem next (h : s.Bypasses P) (subcommand : String) : ∀ x ∈ (s.next subcommand).effects,
    Pathname.Avoids P x.path ∧ ∀ target, x.kind = .link target → Pathname.Avoids P target := by
  unfold Script.next
  cases hlookup : s.answers.lookup subcommand with
  | none => exact fun x hx => by cases hx
  | some answers =>
    cases answers with
    | nil => exact fun x hx => by cases hx
    | cons answer later =>
      obtain ⟨front, back, hmem, -⟩ := List.lookup_eq_some_iff.mp hlookup
      exact h.answers (subcommand, answer :: later) (by simp [hmem]) answer List.mem_cons_self

theorem after (h : s.Bypasses P) (c : Command) : (s.after c).Bypasses P := by
  refine ⟨h.base, fun kept hkept answer hanswer => ?_⟩
  obtain ⟨⟨subcommand, answers⟩, hold, rfl⟩ := List.mem_map.mp hkept
  dsimp only at hanswer
  by_cases hsub : subcommand = c.args.headD ""
  · rw [if_pos hsub] at hanswer
    exact h.answers _ hold answer (List.mem_of_mem_tail hanswer)
  · rw [if_neg hsub] at hanswer
    exact h.answers _ hold answer hanswer

theorem foldl_after (h : s.Bypasses P) (calls : List Command) : (calls.foldl Script.after s).Bypasses P := by
  induction calls generalizing s with
  | nil => exact h
  | cons c calls ih => exact ih (h.after c)

end Bypasses

end Script

/-! ## Call by call -/

section Filmed

variable {R : Machine Script → Machine (Filmed Script) → Prop} {ctx : RepoContext} {r : CloneRequest}
  {policy : RetryPolicy}

/-- The audit looks at the files only, and they are the same on film. -/
theorem agree_audit_filmed (hR : Patient R) (hfilm : ∀ {m n}, R m n → n = m.filmed n.repo.shots)
    (path : ByteString) : Agree R Eq (SymlinkAudit.audit path) (SymlinkAudit.audit path) := by
  intro m n h
  have hfiles : n.files = m.files := by rw [hfilm h]; rfl
  have hwork : n.workDir = m.workDir := by rw [hfilm h]; rfl
  rw [SymlinkAudit.exec_audit, SymlinkAudit.exec_audit, hfiles, hwork]
  exact ⟨alikeOutcome_refl _, hR.noting h _⟩

/-- **What each call of git keeps**, a filmed run in the directory of the checkout keeps. -/
theorem agree_inCheckout_filmed (hR : Patient R) (hfilm : ∀ {m n}, R m n → n = m.filmed n.repo.shots)
    (hanswered : ∀ {m n}, R m n → ∀ args, R (m.answered (Git.command ctx args))
      ((m.answered (Git.command ctx args)).filmed
        (n.repo.shots ++ [Shot.mk (Git.command ctx args) m.files]))) :
    Agree R Eq (inCheckout (Git.client Script.runner policy) r ctx)
      (inCheckout (Git.client (Runner.filmed Script.runner) policy) r ctx) := by
  have hcall : ∀ args, Agree R Eq (Script.runner (Git.command ctx args))
      (Runner.filmed Script.runner (Git.command ctx args)) := by
    intro args m n h
    have hnext := hanswered h args
    rw [hfilm h, exec_filmed, exec_runner]
    exact ⟨alikeOutcome_refl _, hnext⟩
  obtain ⟨hclient, hmerge, hcommit⟩ := lockstep_git hR hcall
  exact hclient.inCheckout hR hmerge hcommit (agree_audit_filmed hR hfilm _)

end Filmed

section Rolling

variable {P here : Location} {kept ground : FileSystem} {start : Script} {ctx : RepoContext}
  {r : CloneRequest} {policy : RetryPolicy}

/-- Where a run in the directory of the checkout stands, on film: on the ground stands what the calls so far
have created, the private directory is as it was, and so it was at each call. -/
structure Rolling (P here : Location) (kept ground : FileSystem) (start : Script) (ctx : RepoContext)
    (m : Machine Script) (n : Machine (Filmed Script)) : Prop where
  filmed : n = m.filmed n.repo.shots
  repo : m.repo = (n.repo.shots.map Shot.command).foldl Script.after start
  files : Beside P kept
    (Fixture.createAll start.base ground (start.created (n.repo.shots.map Shot.command))) m.files
  workDir : m.workDir = here
  shots : ∀ shot ∈ n.repo.shots, shot.command.env = ctx.env.vars ∧ Present P here ctx.env shot.files

theorem patient_rolling : Patient (Rolling P here kept ground start ctx) where
  noting := fun h records => { h with filmed := by rw [h.filmed]; rfl }
  resting := fun h d => { h with filmed := by rw [h.filmed]; rfl }

variable (hP : Apart P) (hkept : Kept P kept) (hpresent : Present P here ctx.env kept)
  (hbypass : start.Bypasses P)

include hP hkept hpresent hbypass

/-- **A call of git** leaves what its answer creates. -/
theorem Rolling.answered {m : Machine Script} {n : Machine (Filmed Script)}
    (h : Rolling P here kept ground start ctx m n) (args : List String) :
    Rolling P here kept ground start ctx (m.answered (Git.command ctx args))
      ((m.answered (Git.command ctx args)).filmed
        (n.repo.shots ++ [Shot.mk (Git.command ctx args) m.files])) where
  filmed := rfl
  repo := by
    change m.repo.after (Git.command ctx args) =
      ((n.repo.shots ++ [Shot.mk (Git.command ctx args) m.files]).map Shot.command).foldl Script.after start
    rw [List.map_append, List.foldl_append, ← h.repo]
    rfl
  files := by
    have hscript : m.repo.Bypasses P := h.repo ▸ hbypass.foldl_after _
    have hbase : m.repo.base = start.base := h.repo ▸ Script.base_foldl_after start _
    have hcreated := h.files.createAll hP hscript.base (hscript.next (args.headD ""))
    rw [hbase] at hcreated
    change Beside P kept
      (Fixture.createAll start.base ground
        (start.created ((n.repo.shots ++ [Shot.mk (Git.command ctx args) m.files]).map Shot.command)))
      (Fixture.createAll m.repo.base m.files (m.repo.next (args.headD "")).effects)
    rw [List.map_append, Script.created_append, ← h.repo, Fixture.createAll_append, hbase]
    simp only [List.map_cons, List.map_nil, Script.created, List.append_nil]
    exact hcreated
  workDir := h.workDir
  shots := fun shot hshot => by
    rcases List.mem_append.mp hshot with hshot | hshot
    · exact h.shots shot hshot
    · rw [List.mem_singleton.mp hshot]
      exact ⟨rfl, hkept.present h.files hpresent⟩

/-- **A run in the directory of the checkout**, call by call. -/
theorem rolling_inCheckout :
    Agree (Rolling P here kept ground start ctx) Eq (inCheckout (Git.client Script.runner policy) r ctx)
      (inCheckout (Git.client (Runner.filmed Script.runner) policy) r ctx) :=
  agree_inCheckout_filmed patient_rolling (fun h => h.filmed) fun h args =>
    h.answered hP hkept hpresent hbypass args

end Rolling

/-! ## The whole run -/

/-- Setting up cannot tell whether it is filmed. -/
theorem prepared_filmed {ρ : Type} (r : CloneRequest) (m : Machine ρ) :
    prepared r (m.filmed []) = ((prepared r m).1, (prepared r m).2.filmed []) := by
  obtain ⟨hout, hfilm⟩ := agree_setUp (blind_onFilm []) (AlikeUrls.refl r)
    (FileSystem.absolutePath m.scratch) (Run.enterPrivateDir (m.noting (parameterRecords (parameters r))))
    (Run.enterPrivateDir ((m.filmed []).noting (parameterRecords (parameters r)))) rfl
  exact Prod.ext hout.eq.symm hfilm

/-- The footprint of a run of a request on a machine, with the shots of its calls. -/
structure Footprint (r : CloneRequest) (m : Machine Script) (out : Machine Script) (shots : List Shot) :
    Prop where
  calls : out.repo.calls = m.repo.calls ++ shots.map Shot.command
  /-- The ground, and what the calls have created on it, one after another. -/
  files : out.files = Fixture.createAll m.repo.base (ground r m) (m.repo.created (shots.map Shot.command))
  /-- The private directory is gone with all that was in it. -/
  gone : ∀ l, m.scratch <+: l → out.files.get? l = none
  /-- At each call it was there, with the files that the variables of the call name. -/
  shots : ∀ shot ∈ shots, ∃ env, (prepared r m).1 = .ok env ∧ shot.command.env = env.vars ∧
    Present m.scratch m.workDir env shot.files

section Footprint

variable {r : CloneRequest} {m m₁ : Machine Script}

/-- Where the private directory was removed, nothing is. -/
theorem get?_of_removed (hroom : HasRoom m) (fs : FileSystem) (l : Location) (hl : m.scratch <+: l) :
    (fs.remove m.scratch).get? l = none := by
  rw [FileSystem.get?_remove hroom.ne_nil, if_pos (List.isPrefixOf_iff_prefix.mpr hl)]

/-- A request that makes no sense leaves nothing. -/
theorem footprint_of_not_valid (hroom : HasRoom m) {e : Error} (hvalid : r.validate = .error e) :
    Footprint r m (m.noting (parameterRecords (parameters r))) [] where
  calls := (List.append_nil _).symm
  files := by
    unfold ground
    rw [hvalid]
    rfl
  gone := fun l hl => by
    have hnone := get?_of_removed hroom m.files l hl
    rw [FileSystem.remove_eq_self hroom.ne_nil hroom.free hroom.empty] at hnone
    exact hnone
  shots := fun shot hshot => by cases hshot

/-- A run that fails before its first call leaves what it has cleared of the ground. -/
theorem footprint_of_not_prepared (hroom : HasRoom m) (hsecluded : Secluded r m)
    (hvalid : r.validate = .ok ()) {e : Error} (hprepared : prepared r m = (.error e, m₁)) :
    Footprint r m { m₁ with files := m₁.files.remove m.scratch } [] := by
  have hbeside := (beside_prepared hroom hsecluded hvalid).1
  have hrepo := prepared_repo r m
  rw [hprepared] at hbeside hrepo
  refine ⟨?_, hbeside.removed, get?_of_removed hroom _, fun shot hshot => by cases hshot⟩
  rw [← hrepo]
  exact (List.append_nil _).symm

/-- From a run in the directory of the checkout only the private directory is taken. -/
theorem Rolling.footprint {kept : FileSystem} {env : GitEnvironment} {shots : List Shot} (hroom : HasRoom m)
    (henv : (prepared r m).1 = .ok env)
    (h : Rolling m.scratch m.workDir kept (ground r m) m.repo ⟨r.checkoutDir, env⟩ m₁ (m₁.filmed shots)) :
    Footprint r m { m₁ with files := m₁.files.remove m.scratch } shots where
  calls := by
    change m₁.repo.calls = _
    rw [h.repo, Script.calls_foldl_after]
    rfl
  files := h.files.removed
  gone := get?_of_removed hroom _
  shots := fun shot hshot => ⟨env, henv, h.shots shot hshot⟩

/-- **The footprint of a run.** However the run ends, it leaves the ground that it has cleared with what the
calls of git have created on it, and nothing else. Filming it changes nothing. -/
theorem run_footprint (policy : RetryPolicy) (r : CloneRequest) (m : Machine Script) (hroom : HasRoom m)
    (hsecluded : Secluded r m) (hbypass : m.repo.Bypasses m.scratch) :
    let out := (Clone.run (Git.client Script.runner policy) r).exec m
    let film := (Clone.run (Git.client (Runner.filmed Script.runner) policy) r).exec (m.filmed [])
    film.1 = out.1 ∧ film.2.unfilmed = out.2 ∧ Footprint r m out.2 film.2.repo.shots := by
  cases hvalid : r.validate with
  | error e =>
    rw [exec_run_of_not_valid _ m hvalid, exec_run_of_not_valid _ (m.filmed []) hvalid]
    exact ⟨rfl, rfl, footprint_of_not_valid hroom hvalid⟩
  | ok _ =>
    have hfilmed := prepared_filmed r m
    cases hprepared : prepared r m with
    | mk o m₁ =>
      rw [hprepared] at hfilmed
      cases o with
      | error e =>
        rw [exec_run_of_not_prepared _ hvalid hprepared, exec_run_of_not_prepared _ hvalid hfilmed]
        exact ⟨rfl, rfl, footprint_of_not_prepared hroom hsecluded hvalid hprepared⟩
      | ok env =>
        obtain ⟨hkept, -, -, hpresent⟩ := kept_staged hroom r
        obtain ⟨hbeside, hwork, henv⟩ := beside_prepared hroom hsecluded hvalid
        have hrepo := prepared_repo r m
        rw [hprepared] at hbeside hwork henv hrepo
        have hstart : Rolling m.scratch m.workDir (staged r m).2.files (ground r m) m.repo
            ⟨r.checkoutDir, env⟩ m₁ (m₁.filmed []) :=
          ⟨rfl, hrepo, hbeside, hwork, fun shot hshot => by cases hshot⟩
        have hrun : Agree (Rolling m.scratch m.workDir (staged r m).2.files (ground r m) m.repo
            ⟨r.checkoutDir, env⟩) Eq (inCheckout (Git.client Script.runner policy) r ⟨r.checkoutDir, env⟩)
            (inCheckout (Git.client (Runner.filmed Script.runner) policy) r ⟨r.checkoutDir, env⟩) :=
          rolling_inCheckout hroom.apart hkept (hpresent env (henv env rfl)) hbypass
        obtain ⟨hend, hdone⟩ := hrun _ _ hstart
        rw [exec_run_of_prepared _ hvalid hprepared, exec_run_of_prepared _ hvalid hfilmed]
        generalize (inCheckout (Git.client Script.runner policy) r ⟨r.checkoutDir, env⟩).exec m₁ = x
          at hend hdone ⊢
        generalize (inCheckout (Git.client (Runner.filmed Script.runner) policy) r
          ⟨r.checkoutDir, env⟩).exec (m₁.filmed []) = y at hend hdone ⊢
        obtain ⟨o, m₂⟩ := x
        obtain ⟨o', n₂⟩ := y
        obtain ⟨shots, rfl⟩ : ∃ shots, n₂ = m₂.filmed shots := ⟨_, hdone.filmed⟩
        exact ⟨hend.eq.symm, rfl, hdone.footprint hroom (congrArg Prod.fst hprepared)⟩

end Footprint

/-- A fetch that fails half-way, in a directory that was cleared, with a user and a key. -/
theorem run_footprint_of_failed_fetch :
    let r := { CloneRequest.new "https://git.example/x" with
      outputDir := "/work/source", deleteExisting := true
      basicAuthDirectory := some "/auth", sshDirectory := some "/keys" }
    let script : Script := ⟨["work"], [("init", [⟨[⟨"source/.git", .dir, none⟩], .ok .silent⟩]),
      ("fetch", [⟨[⟨"source/.git/part", .file [1], some 0o444⟩], .ok ⟨"", "fatal: no route", 128⟩⟩])], []⟩
    let m : Machine Script := { Machine.bare script with
      files := ⟨[(["work"], .dir 0o755), (["work", "source"], .dir 0o755),
        (["work", "source", "old"], .file [0] 0o644), (["auth"], .dir 0o755),
        (["auth", "username"], .file [117] 0o644), (["auth", "password"], .file [112] 0o644),
        (["keys"], .dir 0o755), (["keys", "id_rsa"], .file [107] 0o600)]⟩ }
    let out := (Clone.run (Git.client Script.runner .default) r).exec m
    let film := (Clone.run (Git.client (Runner.filmed Script.runner) .default) r).exec (m.filmed [])
    HasRoom m ∧ Secluded r m ∧ m.repo.Bypasses m.scratch ∧
      film.1 = out.1 ∧ film.2.unfilmed = out.2 ∧ Footprint r m out.2 film.2.repo.shots := by
  intro r script m out film
  have hroom : HasRoom m :=
    { named := by decide, reached := ⟨by decide, by decide⟩, short := by decide
      free := by rfl, empty := by rfl }
  have hdir : m.files.locate ["work"] "/work/source" = .ok (["work", "source"], .dir 0o755) := by rfl
  have hlocate : m.files.locate m.workDir r.checkoutDir = .ok (["work", "source"], .dir 0o755) := hdir
  have hsecluded : Secluded r m := by
    refine ⟨by decide, by decide, fun l target hlink => ?_, fun _ l e hfound => ?_⟩
    · have hmem := FileSystem.mem_of_get?_link hlink
      simp [m] at hmem
    · rw [hlocate] at hfound
      cases hfound
      decide
  have hbypass : m.repo.Bypasses m.scratch := by
    refine ⟨by decide, ?_⟩
    simp only [m, script, Machine.bare, List.forall_mem_cons, List.not_mem_nil, false_imp_iff,
      implies_true, and_true, reduceCtorEq]
    decide
  exact ⟨hroom, hsecluded, hbypass, run_footprint .default r m hroom hsecluded hbypass⟩

end Checkout
