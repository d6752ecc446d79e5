import Checkout.Proofs.Clone.Transcript

/-!
# What a merge does with its remote and its commits

A merge names its remote three times and reads the head twice. `MergeFlow` says of a transcript which
remote the commands name, and which answer a commit and the result are taken from. It holds of every
merge, whatever the request, the policy and the answers of git.

Results:
* `carries_mergeFlow`: a merge carries out its items, and its value is the head that was read last;
* `merge_flow`: the transcript of a merge.
-/

namespace Checkout

namespace CloneRequest

/-- The merge source if it is another repository than the origin. -/
def elsewhere? (r : CloneRequest) : Option String :=
  match given? r.mergeSourceRepoUrl with
  | some source => if normalizeUrl source = normalizeUrl r.url then none else some source
  | none => none

/-- The remote of the target branch. -/
def mergeRemote (r : CloneRequest) : String :=
  match r.elsewhere? with
  | some _ => "merge-source"
  | none => "origin"

/-- The remote that has to be added before the merge, if there is one. -/
def additions (r : CloneRequest) : List PlanItem :=
  r.elsewhere?.toList.map fun source => .call ["remote", "add", r.mergeRemote, source]

/-- The command line of the merge. -/
def mergeLine (r : CloneRequest) : List String :=
  ["merge", s!"{r.mergeRemote}/{r.targetBranch}", "--no-commit", "--no-ff",
    "--allow-unrelated-histories"]

/-- What has to succeed before the merge once its remote is there. -/
def beforeMerge (r : CloneRequest) : List PlanItem :=
  [.fetch (fetchLine false r.mergeSourceDepth r.mergeRemote (given? (some r.targetBranch))),
    .call ["config", "--local", "user.email", Defaults.mergeCommitEmail],
    .call ["config", "--local", "user.name", Defaults.mergeCommitName],
    .head]

/-- The items of a merge, with the head read and kept in the end. -/
def mergeFlowPlan (r : CloneRequest) : List PlanItem :=
  (r.additions ++ r.beforeMerge) ++
    .call r.mergeLine :: [.commit r.targetBranch r.mergeRemote, .head]

variable {r : CloneRequest}

/-- There is no source, or it is the origin itself, or it is another repository. -/
theorem source_cases (r : CloneRequest) :
    (given? r.mergeSourceRepoUrl = none ∧ r.elsewhere? = none) ∨
      (∃ source, given? r.mergeSourceRepoUrl = some source ∧
        normalizeUrl source = normalizeUrl r.url ∧ r.elsewhere? = none) ∨
      ∃ source, given? r.mergeSourceRepoUrl = some source ∧
        normalizeUrl source ≠ normalizeUrl r.url ∧ r.elsewhere? = some source := by
  unfold elsewhere?
  cases given? r.mergeSourceRepoUrl with
  | none => exact Or.inl ⟨rfl, rfl⟩
  | some source =>
    by_cases hsame : normalizeUrl source = normalizeUrl r.url
    · exact Or.inr (Or.inl ⟨source, rfl, hsame, if_pos hsame⟩)
    · exact Or.inr (Or.inr ⟨source, rfl, hsame, if_neg hsame⟩)

theorem mergeRemote_cases (r : CloneRequest) :
    r.mergeRemote = "origin" ∨ r.mergeRemote = "merge-source" := by
  unfold mergeRemote
  cases r.elsewhere? with
  | none => exact Or.inl rfl
  | some source => exact Or.inr rfl

theorem selectMergeRemote_eq (r : CloneRequest) :
    selectMergeRemote r.url r.mergeSourceRepoUrl = r.mergeRemote := by
  unfold selectMergeRemote mergeRemote
  rw [filter_nonempty]
  rcases r.source_cases with ⟨hgiven, helse⟩ | ⟨source, hgiven, hsame, helse⟩ |
    ⟨source, hgiven, hsame, helse⟩
  · rw [hgiven, helse]
    rfl
  · rw [hgiven, helse]
    exact if_pos hsame
  · rw [hgiven, helse]
    exact if_neg hsame

theorem audit_not_mem_mergeFlowPlan (r : CloneRequest) : PlanItem.audit ∉ r.mergeFlowPlan := by
  simp [mergeFlowPlan, additions, beforeMerge]

/-- The plan of the merge in a checkout makes the same commands. -/
theorem mergePlan_eq (r : CloneRequest) :
    r.mergePlan = (r.additions ++ r.beforeMerge) ++
      .call r.mergeLine :: [.commit r.targetBranch r.mergeRemote, .call ["rev-parse", "HEAD"]] := by
  unfold mergePlan additions beforeMerge mergeLine mergeRemote
  rcases r.source_cases with ⟨hgiven, helse⟩ | ⟨source, hgiven, hsame, helse⟩ |
    ⟨source, hgiven, hsame, helse⟩
  · rw [hgiven, helse]
    rfl
  · rw [hgiven, helse]
    exact if_pos hsame
  · rw [hgiven, helse]
    exact if_neg hsame

end CloneRequest

open Clone

variable {ctx : RepoContext} {attempts : Nat} {kept : String} {policy : RetryPolicy} {r : CloneRequest}

/-! ## The merge carries out its items -/

/-- The fetch of the target branch, also for a depth below zero, which counts as none. -/
theorem fetchArgs_fetchSpec (r : CloneRequest) (remote : String) :
    Git.fetchArgs (Merge.fetchSpec r remote) =
      CloneRequest.fetchLine false r.mergeSourceDepth remote
        (CloneRequest.given? (some r.targetBranch)) := by
  by_cases hdepth : 0 ≤ r.mergeSourceDepth
  · exact fetchArgs_mergeSpec hdepth remote
  · have hzero := fetchArgs_mergeSpec (r := { r with mergeSourceDepth := 0 }) (Int.le_refl 0) remote
    have hnone : r.mergeSourceDepth.toNat = 0 := Int.toNat_of_nonpos (by omega)
    have hspec : Merge.fetchSpec { r with mergeSourceDepth := 0 } remote = Merge.fetchSpec r remote := by
      simp only [Merge.fetchSpec, CloneRequest.mergeFetchDepth, CloneRequest.fetchAttempts, hnone]
      rfl
    have hline : CloneRequest.depthArgs r.mergeSourceDepth = CloneRequest.depthArgs 0 := by
      unfold CloneRequest.depthArgs
      rw [if_neg (by omega), if_neg (by omega)]
    rw [← hspec, hzero]
    unfold CloneRequest.fetchLine
    rw [hline]

/-- A commit into the head that is kept leaves it as it is kept. -/
theorem carries_commit (branch remote sha : String) :
    Carries ctx attempts ((Git.client Script.runner policy).commit ctx branch remote sha) sha
      [.commit branch remote] fun _ next => next = sha := by
  have hread : Carries ctx attempts ((Git.client Script.runner policy).commit ctx branch remote sha) sha
      [.commit branch remote] fun text next => ∃ out : CommandOutput, text = Text.trim out.stdout ∧
        next = PlanItem.keep sha out (.commit branch remote) :=
    carries_read _ _ rfl (Nat.le_refl 1)
  refine carries_mono hread ?_
  rintro text next ⟨out, -, rfl⟩
  rfl

/-- The items after the remote is there; the value is the head that was read last. -/
theorem carries_mergeSteps (r : CloneRequest) :
    Carries ctx (max 1 r.retryMaxAttempts)
      (Merge.mergeFrom (Git.client Script.runner policy) ctx r r.mergeRemote) kept
      (r.beforeMerge ++ .call r.mergeLine :: [.commit r.targetBranch r.mergeRemote, .head])
      fun sha next => sha = next := by
  unfold Merge.mergeFrom CloneRequest.beforeMerge
  rw [← fetchArgs_fetchSpec]
  refine carries_cons (carries_fetch policy (Nat.le_of_eq (mergeSpec_maxAttempts _))) fun _ => ?_
  refine carries_cons (carries_call _ _) fun _ => ?_
  refine carries_cons (carries_call _ _) fun _ => ?_
  refine carries_bind (p := [.head]) (carries_read .head _ rfl (Nat.le_refl 1)) ?_
  rintro head next ⟨out, rfl, rfl⟩
  refine carries_cons (carries_output _ _) fun _ => ?_
  refine carries_skip (carries_write _ _ _) fun _ => ?_
  refine carries_cons (carries_commit _ _ _) fun _ => ?_
  refine carries_skip (carries_write _ _ _) fun _ => ?_
  refine carries_mono (carries_read .head _ rfl (Nat.le_refl 1)) ?_
  rintro sha next ⟨out, rfl, rfl⟩
  rfl

/-- **A merge carries out its items**, and its value is the head that was read last. -/
theorem carries_mergeFlow (r : CloneRequest) :
    Carries ctx (max 1 r.retryMaxAttempts) (Merge.merge (Git.client Script.runner policy) ctx r) kept
      r.mergeFlowPlan fun sha next => sha = next := by
  unfold Merge.merge CloneRequest.mergeFlowPlan
  refine carries_skip carries_warnShallow fun _ => ?_
  rw [CloneRequest.selectMergeRemote_eq, filter_nonempty, List.append_assoc]
  dsimp only
  have hsteps := @carries_mergeSteps ctx kept policy r
  unfold CloneRequest.additions
  rcases r.source_cases with ⟨hgiven, helse⟩ | ⟨source, hgiven, hsame, helse⟩ |
    ⟨source, hgiven, hsame, helse⟩
  · rw [hgiven, helse]
    exact hsteps
  · have hremote : r.mergeRemote ≠ Defaults.mergeSourceRemote := by
      unfold CloneRequest.mergeRemote
      rw [helse]
      decide
    rw [hgiven, helse]
    unfold Merge.addRemote
    dsimp only
    rw [if_neg hremote]
    exact carries_skip (carries_write _ _ _) fun _ => hsteps
  · have hremote : r.mergeRemote = Defaults.mergeSourceRemote := by
      unfold CloneRequest.mergeRemote
      rw [helse]
      rfl
    rw [hgiven, helse]
    refine carries_cons ?_ fun _ => hsteps
    unfold Merge.addRemote
    rw [if_pos hremote]
    refine carries_skip (carries_write _ _ _) fun _ => ?_
    refine carries_skip (carries_write _ _ _) fun _ => ?_
    exact carries_after (carries_output _ _) fun _ _ hnext => hnext ▸ carries_write _ _ _

/-! ## The transcript of a merge -/

/-- What the transcript of a merge and its outcome say about its remote and its commits. -/
structure MergeFlow (r : CloneRequest) (remote : String) (t : List Exchange)
    (outcome : Except Error String) : Prop where
  /-- Another repository gets a remote of its own, which is added once and first of all. -/
  added : ∀ source, r.elsewhere? = some source → remote = "merge-source" ∧
    ∃ add rest, t = add :: rest ∧ add.args = ["remote", "add", remote, source] ∧
      ∀ e ∈ rest, e.subcommand ≠ "remote"
  /-- Otherwise the target branch comes from the origin, and no remote is added. -/
  notAdded : r.elsewhere? = none → remote = "origin" ∧ ∀ e ∈ t, e.subcommand ≠ "remote"
  /-- The remote is fetched from. -/
  fetches : ∀ e ∈ t, e.subcommand = "fetch" →
    e.args = CloneRequest.fetchLine false r.mergeSourceDepth remote
      (CloneRequest.given? (some r.targetBranch))
  /-- Its branch is merged, right after a fetch, the setting of the identity and a reading of the head
  have succeeded. -/
  merges : ∀ before e after, t = before ++ e :: after → e.subcommand = "merge" →
    e.args = ["merge", s!"{remote}/{r.targetBranch}", "--no-commit", "--no-ff",
      "--allow-unrelated-histories"] ∧
    ∃ start fetch email name head, before = start ++ [fetch, email, name, head] ∧
      fetch.subcommand = "fetch" ∧
      email.args = ["config", "--local", "user.email", Defaults.mergeCommitEmail] ∧
      name.args = ["config", "--local", "user.name", Defaults.mergeCommitName] ∧
      head.args = ["rev-parse", "HEAD"] ∧
      ∀ x ∈ [fetch, email, name, head], Succeeded x.answer
  /-- A commit follows a merge that succeeded, and names the head that was read right before it. -/
  commits : ∀ before e after, t = before ++ e :: after → e.subcommand = "commit" →
    ∃ start head merge out, before = start ++ [head, merge] ∧
      merge.subcommand = "merge" ∧ Succeeded merge.answer ∧
      head.args = ["rev-parse", "HEAD"] ∧ head.answer = .ok out ∧
      e.args = ["commit", "-m",
        s!"Merge branch '{r.targetBranch}' from {remote} into {Text.trim out.stdout}"]
  /-- The value is the head that was read right after the commit, and there is one just if that reading
  has succeeded. -/
  value : ∀ sha, outcome = .ok sha ↔
    ∃ start commit head out, t = start ++ [commit, head] ∧
      commit.subcommand = "commit" ∧ Succeeded commit.answer ∧
      head.args = ["rev-parse", "HEAD"] ∧ head.answer = .ok out ∧ out.exitCode = 0 ∧
      sha = Text.trim out.stdout

theorem subcommand_additions {item : PlanItem} (h : item ∈ r.additions) : item.subcommand = "remote" := by
  obtain ⟨source, -, rfl⟩ := List.mem_map.mp h
  rfl

theorem subcommand_beforeMerge {item : PlanItem} (h : item ∈ r.beforeMerge) :
    item.subcommand ∈ ["fetch", "config", "rev-parse"] := by
  simp only [CloneRequest.beforeMerge, List.mem_cons, List.not_mem_nil, or_false] at h
  rcases h with rfl | rfl | rfl | rfl <;> simp [PlanItem.subcommand, CloneRequest.fetchLine]

namespace Performed

variable {t before after : List Exchange} {e : Exchange} {final : Option String} {next : String}
  {p q : List PlanItem}

/-- What has to succeed before a merge ends a transcript with four successes. -/
theorem last_beforeMerge (h : Performed ctx attempts kept (p ++ r.beforeMerge) t (some next)) :
    ∃ start fetch email name head out, t = start ++ [fetch, email, name, head] ∧
      fetch.args = CloneRequest.fetchLine false r.mergeSourceDepth r.mergeRemote
        (CloneRequest.given? (some r.targetBranch)) ∧
      email.args = ["config", "--local", "user.email", Defaults.mergeCommitEmail] ∧
      name.args = ["config", "--local", "user.name", Defaults.mergeCommitName] ∧
      head.args = ["rev-parse", "HEAD"] ∧ head.answer = .ok out ∧ next = Text.trim out.stdout ∧
      (∀ x ∈ [fetch, email, name, head], Succeeded x.answer) ∧
      ∃ earlier failed kept', start = earlier ++ failed ∧
        Performed ctx attempts kept p earlier (some kept') := by
  unfold CloneRequest.beforeMerge at h
  rw [List.append_cons, List.append_cons, List.append_cons] at h
  obtain ⟨start₃, head, out, next₃, rfl, hhead, hout, hzero, rfl, h₃⟩ := h.last_head
  obtain ⟨start₂, name, rfl, hname, hnamed, h₂⟩ := h₃.last_call
  obtain ⟨start₁, email, rfl, hemail, hmailed, h₁⟩ := h₂.last_call
  obtain ⟨start, fetch, rfl, hfetch, hfetched, earlier, failed, rfl, h₀, -⟩ := h₁.last_fetch
  have hread : Succeeded head.answer := by
    rw [hout]
    exact hzero
  refine ⟨earlier ++ failed, fetch, email, name, head, out, by simp, hfetch, hemail, hname, hhead, hout,
    rfl, ?_, earlier, failed, _, rfl, h₀⟩
  simp [hfetched, hmailed, hnamed, hread]

/-- Where a merge stands, all that has to succeed before it has succeeded. -/
theorem merge_reached
    (h : Performed ctx attempts kept ((p ++ r.beforeMerge) ++ .call r.mergeLine :: q) t final)
    (ht : t = before ++ e :: after) (he : e.subcommand = "merge")
    (honly : ∀ x ∈ p ++ q, x.subcommand ≠ "merge") :
    e.args = r.mergeLine ∧ ∃ next, Performed ctx attempts kept (p ++ r.beforeMerge) before (some next) := by
  have hothers : ∀ x ∈ (p ++ r.beforeMerge) ++ q, x.subcommand ≠ "merge" := by
    intro x hx hmerge
    rcases List.mem_append.mp hx with hx | hx
    · rcases List.mem_append.mp hx with hx | hx
      · exact honly x (List.mem_append_left _ hx) hmerge
      · exact absurd hmerge (ne_of_mem_of_not_mem (subcommand_beforeMerge hx) (by decide))
    · exact honly x (List.mem_append_right _ hx) hmerge
  obtain ⟨next, args, hdone, hargs, hcommand⟩ := h.reached_only ht he hothers rfl
  refine ⟨?_, next, hdone⟩
  rw [Exchange.args, hcommand]
  exact (Option.some.inj hargs).symm

theorem not_remote_of_performed
    (h : Performed ctx attempts kept
      (r.beforeMerge ++ .call r.mergeLine :: [.commit r.targetBranch r.mergeRemote, .head]) t final) :
    ∀ e ∈ t, e.subcommand ≠ "remote" := by
  intro e he hremote
  obtain ⟨item, hitem, hsub⟩ := h.subcommand_mem he
  rw [hremote] at hsub
  rcases List.mem_append.mp hitem with hitem | hitem
  · exact absurd hsub (ne_of_mem_of_not_mem (subcommand_beforeMerge hitem) (by decide))
  · simp only [List.mem_cons, List.not_mem_nil, or_false] at hitem
    rcases hitem with rfl | rfl | rfl <;>
      simp [PlanItem.subcommand, CloneRequest.mergeLine] at hsub

/-- The transcript of a merge starts with the addition of its remote, if it has one. -/
theorem additions_first {source : String} (helse : r.elsewhere? = some source)
    (h : Performed ctx attempts kept r.mergeFlowPlan t final) :
    ∃ add rest, t = add :: rest ∧ add.args = ["remote", "add", r.mergeRemote, source] ∧
      ∀ e ∈ rest, e.subcommand ≠ "remote" := by
  have hadditions : r.additions = [.call ["remote", "add", r.mergeRemote, source]] := by
    unfold CloneRequest.additions
    rw [helse]
    rfl
  unfold CloneRequest.mergeFlowPlan at h
  rw [hadditions, List.append_assoc] at h
  cases h with
  | @command _ _ _ args failed rest out _ hargs hall hmost hout hrest =>
    obtain rfl : failed = [] := List.length_eq_zero_iff.mp (Nat.lt_one_iff.mp hmost)
    exact ⟨_, rest, rfl, (Option.some.inj hargs).symm, not_remote_of_performed hrest⟩
  | @commandFails _ _ _ args _ hargs hall hne hmost =>
    cases t with
    | nil => exact absurd rfl hne
    | cons add rest =>
      obtain rfl : rest = [] := List.length_eq_zero_iff.mp (Nat.le_zero.mp (Nat.le_of_succ_le_succ hmost))
      refine ⟨add, [], rfl, ?_, by simp⟩
      rw [Exchange.args, (hall add (by simp)).1]
      exact (Option.some.inj hargs).symm

/-- Without a remote of its own a merge adds none. -/
theorem not_added (helse : r.elsewhere? = none) (h : Performed ctx attempts kept r.mergeFlowPlan t final) :
    ∀ e ∈ t, e.subcommand ≠ "remote" := by
  have hadditions : r.additions = [] := by
    unfold CloneRequest.additions
    rw [helse]
    rfl
  unfold CloneRequest.mergeFlowPlan at h
  rw [hadditions, List.nil_append] at h
  exact not_remote_of_performed h

/-- The only fetch of a merge is the one of the target branch. -/
theorem fetch_args (h : Performed ctx attempts kept r.mergeFlowPlan t final) (he : e ∈ t)
    (hfetch : e.subcommand = "fetch") :
    e.args = CloneRequest.fetchLine false r.mergeSourceDepth r.mergeRemote
      (CloneRequest.given? (some r.targetBranch)) := by
  obtain ⟨item, hitem, kept', hargs⟩ := h.exists_item he
  have hsub : item.subcommand = "fetch" := by
    rw [← PlanItem.subcommand_of_args hargs]
    exact hfetch
  rcases List.mem_append.mp hitem with hitem | hitem
  · rcases List.mem_append.mp hitem with hitem | hitem
    · rw [subcommand_additions hitem] at hsub
      exact absurd hsub (by decide)
    · simp only [CloneRequest.beforeMerge, List.mem_cons, List.not_mem_nil, or_false] at hitem
      rcases hitem with rfl | rfl | rfl | rfl
      · exact (Option.some.inj hargs).symm
      all_goals simp [PlanItem.subcommand] at hsub
  · simp only [List.mem_cons, List.not_mem_nil, or_false] at hitem
    rcases hitem with rfl | rfl | rfl <;>
      simp [PlanItem.subcommand, CloneRequest.mergeLine] at hsub

/-- A merge follows the fetch, the setting of the identity and the reading of the head. -/
theorem merge_follows (h : Performed ctx attempts kept r.mergeFlowPlan t final)
    (ht : t = before ++ e :: after) (he : e.subcommand = "merge") :
    e.args = r.mergeLine ∧ ∃ start fetch email name head, before = start ++ [fetch, email, name, head] ∧
      fetch.subcommand = "fetch" ∧
      email.args = ["config", "--local", "user.email", Defaults.mergeCommitEmail] ∧
      name.args = ["config", "--local", "user.name", Defaults.mergeCommitName] ∧
      head.args = ["rev-parse", "HEAD"] ∧
      ∀ x ∈ [fetch, email, name, head], Succeeded x.answer := by
  have honly : ∀ x ∈ r.additions ++ [.commit r.targetBranch r.mergeRemote, .head],
      x.subcommand ≠ "merge" := by
    intro x hx hmerge
    simp only [List.mem_append, List.mem_cons, List.not_mem_nil, or_false] at hx
    rcases hx with hx | rfl | rfl
    · rw [subcommand_additions hx] at hmerge
      exact absurd hmerge (by decide)
    all_goals simp [PlanItem.subcommand] at hmerge
  obtain ⟨hargs, next, hbefore⟩ := h.merge_reached ht he honly
  obtain ⟨start, fetch, email, name, head, out, rfl, hfetch, hemail, hname, hhead, -, -, hall, -⟩ :=
    hbefore.last_beforeMerge
  refine ⟨hargs, start, fetch, email, name, head, rfl, ?_, hemail, hname, hhead, hall⟩
  rw [Exchange.subcommand, hfetch]
  rfl

/-- A commit follows a merge, which follows the reading of the head that the commit names. -/
theorem commit_reached (h : Performed ctx attempts kept r.mergeFlowPlan t final)
    (ht : t = before ++ e :: after) (he : e.subcommand = "commit") :
    ∃ start head merge out, before = start ++ [head, merge] ∧
      merge.subcommand = "merge" ∧ Succeeded merge.answer ∧
      head.args = ["rev-parse", "HEAD"] ∧ head.answer = .ok out ∧
      e.args = ["commit", "-m",
        s!"Merge branch '{r.targetBranch}' from {r.mergeRemote} into {Text.trim out.stdout}"] := by
  have hplan : r.mergeFlowPlan = ((r.additions ++ r.beforeMerge) ++ [.call r.mergeLine]) ++
      .commit r.targetBranch r.mergeRemote :: [.head] := by
    unfold CloneRequest.mergeFlowPlan
    exact List.append_cons _ _ _
  have hothers : ∀ x ∈ ((r.additions ++ r.beforeMerge) ++ [.call r.mergeLine]) ++ [PlanItem.head],
      x.subcommand ≠ "commit" := by
    intro x hx hcommit
    simp only [List.mem_append, List.mem_singleton] at hx
    rcases hx with ((hx | hx) | rfl) | rfl
    · rw [subcommand_additions hx] at hcommit
      exact absurd hcommit (by decide)
    · exact absurd hcommit (ne_of_mem_of_not_mem (subcommand_beforeMerge hx) (by decide))
    · simp [PlanItem.subcommand, CloneRequest.mergeLine] at hcommit
    · simp [PlanItem.subcommand] at hcommit
  rw [hplan] at h
  obtain ⟨kept', args, hdone, hargs, hcommand⟩ := h.reached_only ht he hothers rfl
  obtain ⟨start₁, merge, rfl, hmerge, hmerged, hbefore⟩ := hdone.last_call
  obtain ⟨start, fetch, email, name, head, out, rfl, -, -, -, hhead, hout, rfl, -⟩ :=
    hbefore.last_beforeMerge
  refine ⟨start ++ [fetch, email, name], head, merge, out, by simp, ?_, hmerged, hhead, hout, ?_⟩
  · rw [Exchange.subcommand, hmerge]
    rfl
  · rw [Exchange.args, hcommand]
    exact (Option.some.inj hargs).symm

/-- A merge that was carried out to its end ends with a commit and a reading of the head. -/
theorem last_mergeFlow (h : Performed ctx attempts kept r.mergeFlowPlan t (some next)) :
    ∃ start commit head out, t = start ++ [commit, head] ∧
      commit.subcommand = "commit" ∧ Succeeded commit.answer ∧
      head.args = ["rev-parse", "HEAD"] ∧ head.answer = .ok out ∧ out.exitCode = 0 ∧
      next = Text.trim out.stdout := by
  have hplan : r.mergeFlowPlan = (((r.additions ++ r.beforeMerge) ++ [.call r.mergeLine]) ++
      [.commit r.targetBranch r.mergeRemote]) ++ [.head] := by
    unfold CloneRequest.mergeFlowPlan
    rw [List.append_cons, List.append_cons]
  rw [hplan] at h
  obtain ⟨start₁, head, out, kept', rfl, hhead, hout, hzero, rfl, hcommit⟩ := h.last_head
  obtain ⟨start, commit, rfl, hcommit, hcommitted⟩ := hcommit.last_commit
  exact ⟨start, commit, head, out, by simp, hcommit, hcommitted, hhead, hout, hzero, rfl⟩

/-- A merge was carried out to its end just if its transcript ends with a commit and a reading of the
head that have succeeded. -/
theorem value_iff (h : Performed ctx attempts kept r.mergeFlowPlan t final) (sha : String) :
    final = some sha ↔ ∃ start commit head out, t = start ++ [commit, head] ∧
      commit.subcommand = "commit" ∧ Succeeded commit.answer ∧
      head.args = ["rev-parse", "HEAD"] ∧ head.answer = .ok out ∧ out.exitCode = 0 ∧
      sha = Text.trim out.stdout := by
  constructor
  · rintro rfl
    exact h.last_mergeFlow
  · rintro ⟨start, commit, head, out, ht, -, -, -, hout, hzero, rfl⟩
    rw [List.append_cons] at ht
    cases final with
    | none =>
      -- A merge that was broken off would end with a failure, but the last answer is a success.
      obtain ⟨start', last, ht', hfailed⟩ := h.last_failed r.audit_not_mem_mergeFlowPlan
      obtain ⟨-, hsame⟩ := List.append_inj' (ht.symm.trans ht') rfl
      obtain rfl : head = last := (List.cons.inj hsame).1
      rw [hout] at hfailed
      exact absurd hzero hfailed
    | some next =>
      obtain ⟨start', commit', head', out', ht', -, -, -, hout', -, rfl⟩ := h.last_mergeFlow
      rw [List.append_cons] at ht'
      obtain ⟨-, hsame⟩ := List.append_inj' (ht.symm.trans ht') rfl
      obtain rfl : head = head' := (List.cons.inj hsame).1
      rw [hout] at hout'
      cases hout'
      rfl

end Performed

/-- **The data flow of a merge**, whatever the request, the policy and the answers of git. -/
theorem merge_flow (policy : RetryPolicy) (ctx : RepoContext) (r : CloneRequest) (m : Machine Script) :
    MergeFlow r r.mergeRemote
      (transcript m ((Merge.merge (Git.client Script.runner policy) ctx r).exec m).2)
      ((Merge.merge (Git.client Script.runner policy) ctx r).exec m).1 := by
  have hcarries := @carries_mergeFlow ctx "" policy r
  cases ho : (Merge.merge (Git.client Script.runner policy) ctx r).exec m with
  | mk outcome m' =>
    dsimp only
    have hperformed : ∃ final, Performed ctx (max 1 r.retryMaxAttempts) "" r.mergeFlowPlan
        (transcript m m') final ∧ ∀ sha, outcome = .ok sha ↔ final = some sha := by
      cases outcome with
      | ok sha =>
        obtain ⟨next, hperformed, rfl⟩ := hcarries.performed_ok ho
        exact ⟨some sha, hperformed, fun _ => by simp⟩
      | error e => exact ⟨none, hcarries.performed_error ho, fun _ => by simp⟩
    obtain ⟨final, hperformed, hvalue⟩ := hperformed
    refine ⟨fun source helse => ⟨?_, hperformed.additions_first helse⟩,
      fun helse => ⟨?_, hperformed.not_added helse⟩, fun e he hfetch => hperformed.fetch_args he hfetch,
      fun before e after ht he => hperformed.merge_follows ht he,
      fun before e after ht he => hperformed.commit_reached ht he,
      fun sha => (hvalue sha).trans (hperformed.value_iff sha)⟩
    · unfold CloneRequest.mergeRemote
      rw [helse]
    · unfold CloneRequest.mergeRemote
      rw [helse]

end Checkout
