import Checkout.Proofs.Clone.Lockstep
import Checkout.Proofs.Clone.SetUp
import Checkout.Proofs.Git.Watched
import Checkout.Proofs.Symlink.Survey

/-!
# The head that a result describes

A client with a head answers the question for `HEAD` with it, and the question for a time with the time of
it. A checkout asks for the head up to three times while a merge and a commit move it. What comes into its
result is the last head, and what a merge is committed into is the head before the merge.

Results:
* `merge_head`: a merge gives the head that it leaves, and is committed into the head that it found;
* `finish_head`: the result describes the head, which is then left alone;
* `result_describes_head`: both for a whole run.
-/

namespace Checkout

open Clone

variable {ρ α β : Type} {client : RepositoryClient ρ} {head : ρ → String}
  {isShort : Nat → String → String → Prop} {time : String → String} {ctx : RepoContext}
  {r : CloneRequest} {seen : List HeadEvent} {m m' : Machine ρ}

/-! ## Heads -/

/-- A run that ends with a value leaves the head where it is. -/
def Leaves (head : ρ → String) (x : Run ρ α) : Prop :=
  ∀ m a m', x.exec m = (.ok a, m') → head m'.repo = head m.repo

/-- A client with a head: it answers with the head, with a short name of it and with its time, and neither
these answers nor the fetch of the tags move it. -/
structure HeadState (client : RepositoryClient ρ) (head : ρ → String)
    (isShort : Nat → String → String → Prop) (time : String → String) : Prop where
  revParse : ∀ {ctx m sha m'}, (client.revParse ctx "HEAD" none).exec m = (.ok sha, m') →
    sha = head m.repo
  short : ∀ {ctx length m text m'}, (client.revParse ctx "HEAD" (some length)).exec m = (.ok text, m') →
    isShort length text (head m.repo)
  log : ∀ {ctx m text m'}, (client.log ctx "%ct" 1).exec m = (.ok text, m') → text = time (head m.repo)
  leaves_revParse : ∀ ctx length, Leaves head (client.revParse ctx "HEAD" length)
  leaves_log : ∀ ctx, Leaves head (client.log ctx "%ct" 1)
  leaves_fetchTags : ∀ ctx, Leaves head (client.fetchTags ctx)

theorem leaves_pure (a : α) : Leaves head (pure a : Run ρ α) := by
  intro m b m' h
  cases h
  rfl

theorem leaves_bind {x : Run ρ α} {f : α → Run ρ β} (hx : Leaves head x) (hf : ∀ a, Leaves head (f a)) :
    Leaves head (x >>= f) := by
  intro m b m' h
  obtain ⟨a, m₁, hfirst, hsecond⟩ := Run.exec_bind_eq_ok h
  rw [hf a _ _ _ hsecond, hx _ _ _ hfirst]

theorem leaves_ite {c : Prop} [Decidable c] {x y : Run ρ α} (hx : Leaves head x) (hy : Leaves head y) :
    Leaves head (if c then x else y) := by
  by_cases hc : c
  · rwa [if_pos hc]
  · rwa [if_neg hc]

theorem leaves_write (level : Level) (part : Part) (message : String) :
    Leaves head (write level part message : Run ρ Unit) := by
  intro m a m' h
  cases h
  rfl

theorem leaves_audit (path : ByteString) : Leaves head (SymlinkAudit.audit path : Run ρ Unit) := by
  intro m a m' h
  rw [SymlinkAudit.exec_audit] at h
  cases (Prod.mk.inj h).2
  rfl

theorem HeadState.leaves_reportTags (hclient : HeadState client head isShort time) (ctx : RepoContext) :
    Leaves head (reportTags client ctx) :=
  leaves_bind (hclient.leaves_fetchTags ctx) fun _ => leaves_write _ _ _

/-! ## The result -/

/-- What a result says about the head, with a merge or without. -/
def Describes (isShort : Nat → String → String → Prop) (time : String → String) (r : CloneRequest)
    (result : CloneResult) (sha : String) (mergedSha : Option String) : Prop :=
  ∃ short, isShort r.shortCommitLength short sha ∧ result = ⟨r.url, sha, short, time sha, mergedSha⟩

theorem gather_head (hclient : HeadState client head isShort time) {mergedSha : Option String}
    {result : CloneResult} (h : (gather client ctx r mergedSha).exec m = (.ok result, m')) :
    Describes isShort time r result (head m'.repo) mergedSha ∧ head m'.repo = head m.repo := by
  unfold gather at h
  obtain ⟨commit, m₁, hcommit, h⟩ := Run.exec_bind_eq_ok h
  obtain ⟨short, m₂, hshort, h⟩ := Run.exec_bind_eq_ok h
  obtain ⟨timestamp, m₃, hlog, h⟩ := Run.exec_bind_eq_ok h
  have h₁ : head m₁.repo = head m.repo := hclient.leaves_revParse _ _ _ _ _ hcommit
  have h₂ : head m₂.repo = head m₁.repo := hclient.leaves_revParse _ _ _ _ _ hshort
  have h₃ : head m₃.repo = head m₂.repo := hclient.leaves_log _ _ _ _ hlog
  obtain ⟨rfl, hwritten⟩ : result = ⟨r.url, commit, short, timestamp, mergedSha⟩ ∧ m'.repo = m₃.repo := by
    cases h
    exact ⟨rfl, rfl⟩
  have hshort' : isShort r.shortCommitLength short (head m.repo) := by
    rw [← h₁]
    exact hclient.short hshort
  have htime : timestamp = time (head m.repo) := by
    rw [hclient.log hlog, h₂, h₁]
  rw [hwritten, h₃, h₂, h₁]
  refine ⟨⟨short, hshort', ?_⟩, rfl⟩
  rw [hclient.revParse hcommit, htime]

/-- **The result describes the head that is found after the merge**, and that head stays. -/
theorem finish_head (hclient : HeadState client head isShort time) {mergedSha : Option String}
    {result : CloneResult} (h : (finish client r ctx mergedSha).exec m = (.ok result, m')) :
    Describes isShort time r result (head m.repo) mergedSha ∧ head m'.repo = head m.repo := by
  unfold finish at h
  obtain ⟨m₁, haudit, h⟩ := Run.exec_when_eq_ok h
  obtain ⟨gathered, m₂, hgather, h⟩ := Run.exec_bind_eq_ok h
  obtain ⟨m₃, htags, h⟩ := Run.exec_when_eq_ok h
  cases h
  have h₁ : head m₁.repo = head m.repo :=
    leaves_ite (leaves_audit ctx.dir) (leaves_pure ()) _ _ _ haudit
  have h₃ : head m'.repo = head m₂.repo :=
    leaves_ite (hclient.leaves_reportTags ctx) (leaves_pure ()) _ _ _ htags
  obtain ⟨hdescribes, h₂⟩ := gather_head hclient hgather
  rw [h₂, h₁] at hdescribes
  refine ⟨hdescribes, ?_⟩
  rw [h₃, h₂, h₁]

/-! ## The account -/

theorem patient_withAccount (seen : List HeadEvent) :
    Patient (WithAccount seen : Machine ρ → Machine (Watched ρ) → Prop) where
  noting := fun h _ => by
    subst h
    rfl
  resting := fun h _ => by
    subst h
    rfl

theorem lockstep_watched (head : ρ → String) (seen : List HeadEvent) :
    Lockstep (WithAccount seen) ctx client (client.watched head) where
  init := agree_watched seen _
  remoteAdd := fun _ _ => agree_watched seen _
  setSparseCheckout := fun _ => agree_watched seen _
  fetch := fun _ => agree_watched seen _
  checkout := fun _ => agree_watched seen _
  submoduleUpdate := fun _ _ _ => agree_watched seen _
  configLocal := fun _ _ => agree_watched seen _
  revParse := fun _ _ => agree_watched seen _
  log := fun _ _ => agree_watched seen _
  fetchTags := agree_watched seen _

theorem agree_audit_withAccount (seen : List HeadEvent) (path : ByteString) :
    Agree (WithAccount seen) Eq (SymlinkAudit.audit path : Run ρ Unit) (SymlinkAudit.audit path) := by
  intro m n h
  subst h
  rw [SymlinkAudit.exec_audit, SymlinkAudit.exec_audit]
  exact ⟨alikeOutcome_refl _, rfl⟩

theorem agree_finish_watched (seen : List HeadEvent) (mergedSha : Option String) :
    Agree (WithAccount seen) Eq (finish client r ctx mergedSha)
      (finish (client.watched head) r ctx mergedSha) :=
  (lockstep_watched head seen).finish (patient_withAccount seen) (agree_audit_withAccount seen _) mergedSha

/-! ## The merge -/

theorem mergeFrom_head (hclient : HeadState client head isShort time) {remote sha : String}
    (h : (Merge.mergeFrom client ctx r remote).exec m = (.ok sha, m')) (seen : List HeadEvent) :
    sha = head m'.repo ∧ ∃ before,
      (Merge.mergeFrom (client.watched head) ctx r remote).exec (m.watched seen) =
        (.ok sha, m'.watched (seen ++ [.merge before, .commit before])) := by
  unfold Merge.mergeFrom at h ⊢
  obtain ⟨_, m₁, hfetch, h⟩ := Run.exec_bind_eq_ok h
  obtain ⟨_, m₂, hemail, h⟩ := Run.exec_bind_eq_ok h
  obtain ⟨_, m₃, hname, h⟩ := Run.exec_bind_eq_ok h
  obtain ⟨before, m₄, hbefore, h⟩ := Run.exec_bind_eq_ok h
  obtain ⟨merged, m₅, hmerge, h⟩ := Run.exec_bind_eq_ok h
  rw [Run.exec_bind_ok (Run.exec_write _ _ _ _)] at h
  obtain ⟨committed, m₆, hcommit, h⟩ := Run.exec_bind_eq_ok h
  rw [Run.exec_bind_ok (Run.exec_write _ _ _ _)] at h
  have hafter : sha = head m'.repo := by
    rw [hclient.revParse h, hclient.leaves_revParse _ _ _ _ _ h]
  have hread : before = head m₄.repo := by
    rw [hclient.revParse hbefore, hclient.leaves_revParse _ _ _ _ _ hbefore]
  refine ⟨hafter, before, ?_⟩
  -- Up to the merge nothing is noted.
  refine (Run.exec_bind_ok (exec_watched hfetch seen)).trans ?_
  refine (Run.exec_bind_ok (exec_watched hemail seen)).trans ?_
  refine (Run.exec_bind_ok (exec_watched hname seen)).trans ?_
  refine (Run.exec_bind_ok (exec_watched hbefore seen)).trans ?_
  refine (Run.exec_bind_ok (exec_noted hmerge (fun repo => .merge (head repo)) seen)).trans ?_
  rw [← hread]
  refine (Run.exec_bind_ok (Run.exec_write _ _ _ _)).trans ?_
  refine (Run.exec_bind_ok (exec_noted hcommit (fun _ => .commit before) _)).trans ?_
  rw [List.append_assoc]
  refine (Run.exec_bind_ok (Run.exec_write _ _ _ _)).trans ?_
  exact exec_watched h _

/-- **A merge gives the head that it leaves**, and is committed into the head that it found. -/
theorem merge_head (hclient : HeadState client head isShort time) {sha : String}
    (h : (Merge.merge client ctx r).exec m = (.ok sha, m')) (seen : List HeadEvent) :
    sha = head m'.repo ∧ ∃ before,
      (Merge.merge (client.watched head) ctx r).exec (m.watched seen) =
        (.ok sha, m'.watched (seen ++ [.merge before, .commit before])) := by
  unfold Merge.merge at h ⊢
  obtain ⟨_, m₁, hwarned, h⟩ := Run.exec_bind_eq_ok h
  rw [Run.exec_bind_ok (exec_of_agree (Lockstep.warnShallow (patient_withAccount seen)) hwarned)]
  dsimp only at h ⊢
  cases hsource : r.mergeSourceRepoUrl.filter (· ≠ "") with
  | none =>
    rw [hsource] at h
    exact mergeFrom_head hclient h seen
  | some source =>
    rw [hsource] at h
    obtain ⟨_, m₂, hadded, h⟩ := Run.exec_bind_eq_ok h
    obtain ⟨hsha, before, hexec⟩ := mergeFrom_head hclient h seen
    refine ⟨hsha, before, ?_⟩
    have hadd : ∀ remote, Agree (WithAccount seen) Eq (Merge.addRemote client ctx remote source)
        (Merge.addRemote (client.watched head) ctx remote source) := fun remote =>
      (lockstep_watched head seen).addRemote (patient_withAccount seen) remote source
    exact (Run.exec_bind_ok (exec_of_agree (hadd _) hadded)).trans hexec

/-! ## The run -/

theorem inCheckout_head (hclient : HeadState client head isShort time) {result : CloneResult}
    (h : (inCheckout client r ctx).exec m = (.ok result, m')) (seen : List HeadEvent) :
    Describes isShort time r result (head m'.repo)
        (if r.mergeTargetBranch then some (head m'.repo) else none) ∧
      ∃ before, (inCheckout (client.watched head) r ctx).exec (m.watched seen) =
        (.ok result, m'.watched (seen ++
          if r.mergeTargetBranch then [.merge before, .commit before] else [])) := by
  unfold inCheckout at h ⊢
  obtain ⟨_, m₁, hperform, h⟩ := Run.exec_bind_eq_ok h
  rw [Run.exec_bind_ok (exec_of_agree ((lockstep_watched head seen).perform (patient_withAccount seen)) hperform)]
  by_cases hmerge : r.mergeTargetBranch = true
  · rw [if_pos hmerge] at h
    rw [if_pos hmerge, if_pos hmerge]
    obtain ⟨mergedSha, m₂, hmapped, h⟩ := Run.exec_bind_eq_ok h
    obtain ⟨sha, hmerged, rfl⟩ := Run.exec_map_eq_ok hmapped
    obtain ⟨hsha, before, hexec⟩ := merge_head hclient hmerged seen
    obtain ⟨hdescribes, hhead⟩ := finish_head hclient h
    rw [hhead, ← hsha]
    rw [← hsha] at hdescribes
    refine ⟨hdescribes, before, ?_⟩
    rw [if_pos hmerge, Run.exec_bind_ok (Run.exec_map_ok hexec some)]
    exact exec_of_agree (agree_finish_watched _ _) h
  · rw [if_neg hmerge] at h
    rw [if_neg hmerge, if_neg hmerge]
    obtain ⟨mergedSha, m₂, hnone, h⟩ := Run.exec_bind_eq_ok h
    cases hnone
    obtain ⟨hdescribes, hhead⟩ := finish_head hclient h
    rw [hhead]
    refine ⟨hdescribes, "", ?_⟩
    rw [if_neg hmerge, List.append_nil, Run.exec_bind_ok (Run.exec_pure _ _)]
    exact exec_of_agree (agree_finish_watched _ _) h

/-- A run that ended well was set up, and ended well in the directory of the checkout. -/
theorem exec_run_eq_ok {result : CloneResult} (h : (run client r).exec m = (.ok result, m')) :
    ∃ env m₁ m₂, r.validate = .ok () ∧ prepared r m = (.ok env, m₁) ∧
      (inCheckout client r ⟨r.checkoutDir, env⟩).exec m₁ = (.ok result, m₂) ∧
      m' = { m₂ with files := m₂.files.remove m.scratch } := by
  cases hvalid : r.validate with
  | error e =>
    rw [exec_run_of_not_valid client m hvalid] at h
    exact absurd h (by simp)
  | ok u =>
    cases hprepared : prepared r m with
    | mk o m₁ =>
      cases o with
      | error e =>
        rw [exec_run_of_not_prepared client hvalid hprepared] at h
        exact absurd h (by simp)
      | ok env =>
        rw [exec_run_of_prepared client hvalid hprepared] at h
        cases hexec : (inCheckout client r ⟨r.checkoutDir, env⟩).exec m₁ with
        | mk o m₂ =>
          rw [hexec] at h
          obtain ⟨ho, hm⟩ := Prod.mk.inj h
          cases ho
          exact ⟨env, m₁, m₂, rfl, rfl, hexec, hm.symm⟩

/-- Setting up does not show in the account. -/
theorem prepared_watched {env : GitEnvironment} (h : prepared r m = (.ok env, m')) (seen : List HeadEvent) :
    prepared r (m.watched seen) = (.ok env, m'.watched seen) :=
  exec_of_agree (agree_setUp (blind_withAccount seen) (AlikeUrls.refl r) _) h

/-- The fields of a result that describes a head. -/
theorem Describes.fields_eq {result : CloneResult} {sha : String} {mergedSha : Option String}
    (h : Describes isShort time r result sha mergedSha) :
    ∃ short, isShort r.shortCommitLength short sha ∧
      result.fields =
        [("commit", sha), ("shortCommit", short), ("url", r.url), ("commitTimestamp", time sha)] ++
        (mergedSha.map ("mergedSha", ·)).toList ++
        [("CHAINS-GIT_URL", r.url), ("CHAINS-GIT_COMMIT", sha)] := by
  obtain ⟨short, hshort, rfl⟩ := h
  exact ⟨short, hshort, rfl⟩

/-- **The result describes the final commit.** For every client with a head, a run that ends well gives a
record of the head that it leaves: the commit under both its names, its short name, its time and, just if
a merge was asked for, the merged commit are all of this head, and the URL is the one of the request. Under
watch the run is the same, and it has been noted that the commit which the merge was committed into is the
head that was there just before the merge. -/
theorem result_describes_head (hclient : HeadState client head isShort time) {result : CloneResult}
    (h : (run client r).exec m = (.ok result, m')) (seen : List HeadEvent) :
    (∃ short, isShort r.shortCommitLength short (head m'.repo) ∧
      result.fields =
        [("commit", head m'.repo), ("shortCommit", short), ("url", r.url),
          ("commitTimestamp", time (head m'.repo))] ++
        (if r.mergeTargetBranch then [("mergedSha", head m'.repo)] else []) ++
        [("CHAINS-GIT_URL", r.url), ("CHAINS-GIT_COMMIT", head m'.repo)]) ∧
    ∃ before, (run (client.watched head) r).exec (m.watched seen) =
      (.ok result, m'.watched (seen ++
        if r.mergeTargetBranch then [.merge before, .commit before] else [])) := by
  obtain ⟨env, m₁, m₂, hvalid, hprepared, hexec, rfl⟩ := exec_run_eq_ok h
  obtain ⟨hdescribes, before, hwatched⟩ := inCheckout_head hclient hexec seen
  refine ⟨?_, before, ?_⟩
  · obtain ⟨short, hshort, hfields⟩ := hdescribes.fields_eq
    refine ⟨short, hshort, hfields.trans ?_⟩
    by_cases hmerge : r.mergeTargetBranch = true
    · rw [if_pos hmerge, if_pos hmerge]
      rfl
    · rw [if_neg hmerge, if_neg hmerge]
      rfl
  · rw [exec_run_of_prepared _ hvalid (prepared_watched hprepared seen), hwatched]
    rfl

/-! ## A repository with a head -/

/-- The name of a commit without its end. -/
def shortName (length : Nat) (sha : String) : String := String.ofList (sha.toList.take length)

/-- A time for a commit: the length of its name. -/
def lengthTime (sha : String) : String := toString sha.length

/-- A repository that is nothing but its head. The name of a merge commit tells what it was made of. -/
def headOnly : RepositoryClient String where
  init _ := pure ()
  remoteAdd _ _ _ := pure ""
  setSparseCheckout _ _ := pure ()
  fetch _ _ := pure ()
  checkout _ reference := modify fun m => { m with repo := reference }
  submoduleUpdate _ _ _ _ := pure ()
  configLocal _ _ _ := pure ()
  revParse _ _ length := do
    let m ← get
    return match length with
      | some n => shortName n m.repo
      | none => m.repo
  log _ _ _ := do
    let m ← get
    return lengthTime m.repo
  commit _ branch remote sha := do
    modify fun m => { m with repo := s!"{sha} and {branch} of {remote}" }
    return "committed"
  merge _ reference := return s!"merged {reference}"
  fetchTags _ := pure []

theorem headState_headOnly :
    HeadState headOnly id (fun length text sha => text = shortName length sha) lengthTime where
  revParse := fun h => by
    cases h
    rfl
  short := fun h => by
    cases h
    rfl
  log := fun h => by
    cases h
    rfl
  leaves_revParse := fun _ length m a m' h => by
    cases h
    rfl
  leaves_log := fun _ m a m' h => by
    cases h
    rfl
  leaves_fetchTags := fun _ => leaves_pure []

/-- A checkout with a merge of a repository with a head. -/
theorem result_describes_head_of_merge :
    let r := { CloneRequest.new "https://e.org/x" with mergeTargetBranch := true }
    let m : Machine String := Machine.bare "nothing"
    ∃ result m', (run headOnly r).exec m = (.ok result, m') ∧
      m'.repo = "FETCH_HEAD and main of origin" ∧
      (∃ short, short = shortName r.shortCommitLength m'.repo ∧
        result.fields =
          [("commit", m'.repo), ("shortCommit", short), ("url", r.url),
            ("commitTimestamp", lengthTime m'.repo), ("mergedSha", m'.repo),
            ("CHAINS-GIT_URL", r.url), ("CHAINS-GIT_COMMIT", m'.repo)]) ∧
      ∃ before, (run (headOnly.watched id) r).exec (m.watched []) =
        (.ok result, m'.watched [.merge before, .commit before]) := by
  intro r m
  have hends : ((run headOnly r).exec m).1.toOption.isSome = true := by decide +kernel
  obtain ⟨result, hresult⟩ := Option.isSome_iff_exists.mp hends
  have h := Run.exec_eq_of_toOption hresult
  have hhead : ((run headOnly r).exec m).2.repo = "FETCH_HEAD and main of origin" := by decide +kernel
  exact ⟨result, _, h, hhead, result_describes_head headState_headOnly h []⟩

end Checkout
