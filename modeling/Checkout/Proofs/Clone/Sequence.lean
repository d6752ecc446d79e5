import Checkout.Proofs.Clone.Carry

/-!
# The order of the calls of a checkout

`Clone.inCheckout` over git carries out the plan of its request. The simulation follows the phases of a
checkout; each phase is matched by its own part of the plan.

Results:
* `fetchArgs_originSpec`, `fetchArgs_mergeSpec`: the command lines of the two fetches, from the request
  alone;
* `carries_inCheckout`: the simulation of everything that happens in the directory of the checkout.
-/

namespace Checkout

open Clone

variable {ctx : RepoContext} {kept : String} {policy : RetryPolicy} {r : CloneRequest}

/-! ## Command lines -/

theorem numbered_depth {depth : Int} (h : 0 ≤ depth) :
    Git.numbered "depth" depth.toNat = CloneRequest.depthArgs depth := by
  obtain ⟨n, rfl⟩ := Int.eq_ofNat_of_zero_le h
  unfold Git.numbered CloneRequest.depthArgs
  cases n with
  | zero => rfl
  | succ n =>
    rw [Int.toNat_natCast, if_neg (Nat.succ_ne_zero n), if_pos (Int.natCast_pos.mpr n.succ_pos)]
    rfl

theorem filter_nonempty (text : Option String) :
    text.filter (· ≠ "") = CloneRequest.given? text := by
  cases text with
  | none => rfl
  | some s =>
    by_cases hs : s = ""
    · subst hs
      rfl
    · unfold CloneRequest.given?
      simp [hs]

theorem given_given (text : Option String) :
    CloneRequest.given? (CloneRequest.given? text) = CloneRequest.given? text := by
  rw [← filter_nonempty text, ← filter_nonempty, Option.filter_filter]
  simp

theorem fetchRefspec_eq (r : CloneRequest) : r.fetchRefspec = r.wanted := by
  unfold CloneRequest.fetchRefspec CloneRequest.wanted
  simp only [filter_nonempty]
  cases CloneRequest.given? r.refspec <;> rfl

theorem given_wanted (r : CloneRequest) : CloneRequest.given? r.wanted = r.wanted := by
  unfold CloneRequest.wanted
  cases h : CloneRequest.given? r.refspec with
  | none => exact given_given r.revision
  | some refspec =>
    have := given_given r.refspec
    rwa [h] at this

/-- **The fetch from origin** asks for what the request wants, with its depth and its submodules. -/
theorem fetchArgs_originSpec (h : 0 ≤ r.depth) :
    Git.fetchArgs (originSpec r) = CloneRequest.fetchLine r.submodules r.depth "origin" r.wanted := by
  have hspec : (originSpec r).refspec = r.wanted := by
    simp only [originSpec, FetchSpec.withMaxAttempts, FetchSpec.withSubmodules, FetchSpec.withDepth,
      FetchSpec.withRefspec, filter_nonempty, fetchRefspec_eq, given_wanted]
  unfold Git.fetchArgs CloneRequest.fetchLine
  rw [hspec]
  change _ ++ _ ++ Git.numbered "depth" r.depth.toNat ++ _ ++ _ = _
  rw [numbered_depth h]
  rfl

/-- **The fetch of the target branch** asks for that branch, with the depth of the merge source. -/
theorem fetchArgs_mergeSpec (h : 0 ≤ r.mergeSourceDepth) (remote : String) :
    Git.fetchArgs (Merge.fetchSpec r remote) =
      CloneRequest.fetchLine false r.mergeSourceDepth remote
        (CloneRequest.given? (some r.targetBranch)) := by
  have hspec : (Merge.fetchSpec r remote).refspec = CloneRequest.given? (some r.targetBranch) := by
    simp only [Merge.fetchSpec, FetchSpec.withMaxAttempts, FetchSpec.withDepth,
      FetchSpec.withRefspec, filter_nonempty]
  unfold Git.fetchArgs CloneRequest.fetchLine
  rw [hspec]
  change _ ++ _ ++ Git.numbered "depth" r.mergeSourceDepth.toNat ++ _ ++ _ = _
  rw [numbered_depth h]
  rfl

theorem originSpec_maxAttempts : (originSpec r).maxAttempts.count = max 1 r.retryMaxAttempts := by
  simp only [originSpec, FetchSpec.withMaxAttempts, CloneRequest.fetchAttempts, Attempts.count_ofNat]
  omega

theorem mergeSpec_maxAttempts (remote : String) :
    (Merge.fetchSpec r remote).maxAttempts.count = max 1 r.retryMaxAttempts := by
  simp only [Merge.fetchSpec, FetchSpec.withMaxAttempts, CloneRequest.fetchAttempts,
    Attempts.count_ofNat]
  omega

/-! ## The phases of a checkout -/

theorem carries_setSparseCheckout {attempts : Nat} {dirs : List String} (h : dirs ≠ []) :
    Carries ctx attempts (Git.setSparseCheckout Script.runner ctx dirs) kept
      [.call ["config", "--local", "core.sparseCheckout", "true"],
        .call (["sparse-checkout", "set"] ++ dirs)] (Keeps Unit kept) := by
  unfold Git.setSparseCheckout
  rw [if_neg (by simpa using h)]
  refine carries_skip (carries_write _ _ _) fun _ => ?_
  refine carries_cons (carries_call _ _) fun _ => ?_
  exact carries_call _ _

theorem carries_submodules {attempts : Nat} (h : 0 ≤ r.depth) :
    Carries ctx attempts
      ((Git.client Script.runner policy).submoduleUpdate ctx true r.fetchDepth r.submodulePaths) kept
      [.call (["submodule", "update", "--recursive", "--init", "--force"] ++
        CloneRequest.depthArgs r.depth ++ r.submodulePaths)] (Keeps Unit kept) := by
  have hargs : Git.submoduleArgs true r.fetchDepth r.submodulePaths =
      ["submodule", "update", "--recursive", "--init", "--force"] ++
        CloneRequest.depthArgs r.depth ++ r.submodulePaths := by
    unfold Git.submoduleArgs CloneRequest.fetchDepth
    rw [numbered_depth h]
    rfl
  rw [← hargs]
  exact carries_call _ _

theorem carries_perform (h : 0 ≤ r.depth) :
    Carries ctx (max 1 r.retryMaxAttempts) (perform (Git.client Script.runner policy) ctx r) kept
      r.checkoutPlan (Keeps Unit kept) := by
  unfold perform CloneRequest.checkoutPlan
  simp only [List.append_assoc, List.cons_append, List.nil_append]
  refine carries_skip (carries_write _ _ _) fun _ => ?_
  refine carries_cons (carries_call _ _) fun _ => ?_
  have hsparse : ∀ p : List PlanItem, (if r.sparseCheckoutDirectories = [] then [] else p) =
      if (!r.sparseCheckoutDirectories.isEmpty) = true then p else [] := by
    intro p
    cases r.sparseCheckoutDirectories <;> rfl
  rw [hsparse]
  refine carries_when (fun hc => carries_setSparseCheckout (by simpa using hc)) ?_
  refine carries_skip (carries_write _ _ _) fun _ => ?_
  refine carries_cons (carries_output _ _) fun _ => ?_
  refine carries_skip (carries_write _ _ _) fun _ => ?_
  rw [← fetchArgs_originSpec h]
  refine carries_cons (carries_fetch policy (Nat.le_of_eq originSpec_maxAttempts)) fun _ => ?_
  refine carries_skip (carries_write _ _ _) fun _ => ?_
  refine carries_cons (carries_call _ _) fun _ => ?_
  by_cases hs : r.submodules = true
  · rw [if_pos hs, if_pos hs]
    refine carries_skip (carries_write _ _ _) fun _ => ?_
    exact carries_submodules h
  · rw [if_neg hs, if_neg hs]
    exact carries_pure rfl

/-! ## The merge -/

theorem carries_warnShallow {attempts : Nat} :
    Carries ctx attempts (Merge.warnShallow r) kept [] (Keeps Unit kept) := by
  unfold Merge.warnShallow
  dsimp only
  by_cases hd : r.depth = 1 <;> by_cases hm : r.mergeSourceDepth = 1
  · rw [if_pos hd, if_pos hm]
    exact carries_skip (carries_write _ _ _) fun _ => carries_write _ _ _
  · rw [if_pos hd, if_neg hm]
    exact carries_skip (carries_write _ _ _) fun _ => carries_pure rfl
  · rw [if_neg hd, if_pos hm]
    exact carries_write _ _ _
  · rw [if_neg hd, if_neg hm]
    exact carries_pure rfl

theorem carries_mergeFrom (h : 0 ≤ r.mergeSourceDepth) (remote : String) :
    Carries ctx (max 1 r.retryMaxAttempts)
      (Merge.mergeFrom (Git.client Script.runner policy) ctx r remote) kept (r.mergeFrom remote)
      fun _ _ => True := by
  unfold Merge.mergeFrom CloneRequest.mergeFrom
  rw [← fetchArgs_mergeSpec h]
  refine carries_cons (carries_fetch policy (Nat.le_of_eq (mergeSpec_maxAttempts remote))) fun _ => ?_
  refine carries_cons (carries_call _ _) fun _ => ?_
  refine carries_cons (carries_call _ _) fun _ => ?_
  -- The head that is read here is the one that the commit names.
  refine carries_bind (carries_read .head _ rfl (Nat.le_refl 1)) ?_
  rintro head next ⟨out, rfl, rfl⟩
  refine carries_cons (carries_output _ _) fun _ => ?_
  refine carries_skip (carries_write _ _ _) fun _ => ?_
  refine carries_cons (carries_mono (carries_read (.commit _ _) _ rfl (Nat.le_refl 1)) ?_) fun _ => ?_
  · rintro _ _ ⟨_, -, hnext⟩
    exact hnext
  refine carries_skip (carries_write _ _ _) fun _ => ?_
  exact carries_mono (carries_output _ _) fun _ _ _ => trivial

theorem carries_merge (h : 0 ≤ r.mergeSourceDepth) :
    Carries ctx (max 1 r.retryMaxAttempts) (Merge.merge (Git.client Script.runner policy) ctx r) kept
      r.mergePlan fun _ _ => True := by
  unfold Merge.merge CloneRequest.mergePlan selectMergeRemote
  refine carries_skip carries_warnShallow fun _ => ?_
  simp only [filter_nonempty]
  cases CloneRequest.given? r.mergeSourceRepoUrl with
  | none =>
    dsimp only
    exact carries_mergeFrom h _
  | some source =>
    dsimp only
    by_cases hs : normalizeUrl source = normalizeUrl r.url
    · rw [if_pos hs, if_pos hs]
      exact carries_skip (carries_write _ _ _) fun _ => carries_mergeFrom h _
    · rw [if_neg hs, if_neg hs]
      refine carries_cons ?_ fun _ => carries_mergeFrom h _
      unfold Merge.addRemote
      rw [if_pos rfl]
      refine carries_skip (carries_write _ _ _) fun _ => ?_
      refine carries_skip (carries_write _ _ _) fun _ => ?_
      exact carries_after (carries_output _ _) fun _ _ hnext => hnext ▸ carries_write _ _ _

theorem carries_gather {attempts : Nat} (mergedSha : Option String) :
    Carries ctx attempts (gather (Git.client Script.runner policy) ctx r mergedSha) kept
      r.gatherPlan (Keeps CloneResult kept) := by
  unfold gather CloneRequest.gatherPlan
  refine carries_cons (carries_output _ _) fun _ => ?_
  refine carries_cons (carries_output _ _) fun _ => ?_
  refine carries_cons (carries_output _ _) fun _ => ?_
  refine carries_skip (carries_write _ _ _) fun _ => ?_
  refine carries_skip (carries_write _ _ _) fun _ => ?_
  refine carries_skip (carries_write _ _ _) fun _ => ?_
  exact carries_pure rfl

theorem carries_reportTags {attempts : Nat} :
    Carries ctx attempts (reportTags (Git.client Script.runner policy) ctx) kept
      [.call ["fetch", "--tags"], .call ["tag", "-l"]] (Keeps Unit kept) := by
  have htags : Carries ctx attempts ((Git.client Script.runner policy).fetchTags ctx) kept
      [.call ["fetch", "--tags"], .call ["tag", "-l"]] (Keeps (List String) kept) := by
    refine carries_cons (carries_call _ _) fun _ => ?_
    exact carries_after (carries_once (.call _) _ rfl (Nat.le_refl 1)) fun _ _ hnext => carries_pure hnext
  exact carries_after htags fun _ next (hnext : next = kept) => hnext ▸ carries_write _ _ _

theorem carries_finish {attempts : Nat} (mergedSha : Option String) :
    Carries ctx attempts (finish (Git.client Script.runner policy) r ctx mergedSha) kept r.finishPlan
      (Keeps CloneResult kept) := by
  unfold finish CloneRequest.finishPlan
  refine carries_when (fun _ => carries_audit) ?_
  refine carries_bind (carries_gather mergedSha) ?_
  rintro result _ rfl
  dsimp only
  by_cases ht : r.fetchTags = true
  · rw [if_pos ht, if_pos ht]
    exact carries_after carries_reportTags fun _ _ hnext => carries_pure hnext
  · rw [if_neg ht, if_neg ht]
    exact carries_pure rfl

/-- **Everything in the checkout** carries out the plan of the request. -/
theorem carries_inCheckout (hdepth : 0 ≤ r.depth) (hmerge : 0 ≤ r.mergeSourceDepth) :
    Carries ctx (max 1 r.retryMaxAttempts) (inCheckout (Git.client Script.runner policy) r ctx) kept
      r.plan fun _ _ => True := by
  unfold inCheckout CloneRequest.plan
  refine carries_bind (carries_perform hdepth) ?_
  rintro _ start rfl
  dsimp only
  have hfinish : ∀ mergedSha next, Carries ctx (max 1 r.retryMaxAttempts)
      (finish (Git.client Script.runner policy) r ctx mergedSha) next r.finishPlan fun _ _ => True :=
    fun mergedSha _ => carries_mono (carries_finish mergedSha) fun _ _ _ => trivial
  by_cases ht : r.mergeTargetBranch = true
  · have hmerged : Carries ctx (max 1 r.retryMaxAttempts)
        (some <$> Merge.merge (Git.client Script.runner policy) ctx r) start r.mergePlan
        fun _ _ => True := by
      rw [map_eq_pure_bind]
      exact carries_after (carries_merge hmerge) fun _ _ _ => carries_pure trivial
    rw [if_pos ht, if_pos ht]
    exact carries_bind hmerged fun mergedSha next _ => hfinish mergedSha next
  · rw [if_neg ht, if_neg ht, List.nil_append]
    exact carries_skip (carries_pure rfl) fun _ => hfinish _ _

end Checkout
