import Checkout.Proofs.Clone.MergeFlow

/-!
# The branch that is merged

A checkout merges the branch that it has fetched for the merge, as long as the branch has a name. An
empty name asks the fetch for whatever the remote gives by default, and the merge for a reference that
ends with a slash.

Results:
* `Performed.merge_in_checkout`: where a merge stands in the transcript of a checkout;
* `merged_branch_fetched_iff`: what has been fetched there.
-/

namespace Checkout

/-- A fetch of a remote, for a refspec if one is given, has succeeded after the checkout of what was
fetched first. -/
def FetchedForMerge (r : CloneRequest) (remote : String) (refspec : Option String)
    (t : List Exchange) : Prop :=
  ∃ clone fetch rest, t = clone ++ fetch :: rest ∧
    (∃ x ∈ clone, x.args = ["checkout", "FETCH_HEAD"]) ∧ Succeeded fetch.answer ∧
    fetch.args = CloneRequest.fetchLine false r.mergeSourceDepth remote refspec

variable {ctx : RepoContext} {attempts : Nat} {kept next : String} {policy : RetryPolicy}
  {r : CloneRequest} {p : List PlanItem} {t before after : List Exchange} {e : Exchange}
  {final : Option String}

/-! ## The commands of a checkout -/

theorem subcommand_checkoutPlan {item : PlanItem} (h : item ∈ r.checkoutPlan) :
    item.subcommand ∈ ["init", "config", "sparse-checkout", "remote", "fetch", "checkout", "submodule"] := by
  have hmem := r.checkoutPlan_subset h
  simp only [List.mem_cons, List.not_mem_nil, or_false] at hmem
  rcases hmem with rfl | rfl | rfl | rfl | rfl | rfl | rfl <;>
    simp [PlanItem.subcommand, CloneRequest.fetchLine]

theorem subcommand_finishPlan {item : PlanItem} (h : item ∈ r.finishPlan) :
    item.subcommand ∈ ["", "rev-parse", "log", "fetch", "tag"] := by
  have hmem := r.finishPlan_subset h
  simp only [List.mem_cons, List.not_mem_nil, or_false] at hmem
  rcases hmem with rfl | rfl | rfl | rfl | rfl | rfl <;> simp [PlanItem.subcommand]

theorem plan_of_merge (hmerge : r.mergeTargetBranch = true) :
    r.plan = ((r.checkoutPlan ++ r.additions) ++ r.beforeMerge) ++
      .call r.mergeLine ::
        ([.commit r.targetBranch r.mergeRemote, .call ["rev-parse", "HEAD"]] ++ r.finishPlan) := by
  unfold CloneRequest.plan
  rw [if_pos hmerge, r.mergePlan_eq]
  simp only [List.append_assoc, List.cons_append, List.nil_append]

/-- What a checkout fetches: what is checked out, the target branch, and the tags. -/
theorem fetches_of_plan {item : PlanItem} (hitem : item ∈ r.plan) (hsub : item.subcommand = "fetch") :
    item = .fetch (CloneRequest.fetchLine r.submodules r.depth "origin" r.wanted) ∨
      item = .fetch (CloneRequest.fetchLine false r.mergeSourceDepth r.mergeRemote
        (CloneRequest.given? (some r.targetBranch))) ∨
      item = .call ["fetch", "--tags"] := by
  rcases CloneRequest.mem_plan hitem with hitem | ⟨-, hitem⟩ | hitem
  · have hmem := r.checkoutPlan_subset hitem
    simp only [List.mem_cons, List.not_mem_nil, or_false] at hmem
    rcases hmem with rfl | rfl | rfl | rfl | rfl | rfl | rfl <;>
      simp [PlanItem.subcommand] at hsub ⊢
  · rw [r.mergePlan_eq] at hitem
    simp only [List.mem_append, CloneRequest.beforeMerge, List.mem_cons, List.not_mem_nil, or_false] at hitem
    rcases hitem with (hitem | rfl | rfl | rfl | rfl) | rfl | rfl | rfl
    · rw [subcommand_additions hitem] at hsub
      exact absurd hsub (by decide)
    all_goals simp [PlanItem.subcommand, CloneRequest.mergeLine] at hsub ⊢
  · have hmem := r.finishPlan_subset hitem
    simp only [List.mem_cons, List.not_mem_nil, or_false] at hmem
    rcases hmem with rfl | rfl | rfl | rfl | rfl | rfl <;> simp [PlanItem.subcommand] at hsub ⊢

/-- A checkout that merges was asked to. -/
theorem Performed.mergeTargetBranch_of_merge (h : Performed ctx attempts kept r.plan t final) (he : e ∈ t)
    (hsub : e.subcommand = "merge") : r.mergeTargetBranch = true := by
  obtain ⟨item, hitem, hmade⟩ := h.subcommand_mem he
  rw [hsub] at hmade
  rcases CloneRequest.mem_plan hitem with hitem | ⟨hmerge, -⟩ | hitem
  · exact absurd hmade (ne_of_mem_of_not_mem (subcommand_checkoutPlan hitem) (by decide))
  · exact hmerge
  · exact absurd hmade (ne_of_mem_of_not_mem (subcommand_finishPlan hitem) (by decide))

/-- **Where a merge stands in a checkout**, what is fetched for it has been fetched. -/
theorem Performed.merge_in_checkout (h : Performed ctx attempts kept r.plan t final)
    (ht : t = before ++ e :: after) (hsub : e.subcommand = "merge") :
    e.args = r.mergeLine ∧
      FetchedForMerge r r.mergeRemote (CloneRequest.given? (some r.targetBranch)) before := by
  have hmerge := h.mergeTargetBranch_of_merge (by rw [ht]; simp) hsub
  have honly : ∀ x ∈ (r.checkoutPlan ++ r.additions) ++
      ([.commit r.targetBranch r.mergeRemote, .call ["rev-parse", "HEAD"]] ++ r.finishPlan),
      x.subcommand ≠ "merge" := by
    intro x hx hmade
    simp only [List.mem_append, List.mem_cons, List.not_mem_nil, or_false] at hx
    rcases hx with (hx | hx) | (rfl | rfl) | hx
    · exact absurd hmade (ne_of_mem_of_not_mem (subcommand_checkoutPlan hx) (by decide))
    · rw [subcommand_additions hx] at hmade
      exact absurd hmade (by decide)
    · simp [PlanItem.subcommand] at hmade
    · simp [PlanItem.subcommand] at hmade
    · exact absurd hmade (ne_of_mem_of_not_mem (subcommand_finishPlan hx) (by decide))
  rw [plan_of_merge hmerge] at h
  obtain ⟨hargs, next, hbefore⟩ := h.merge_reached ht hsub honly
  obtain ⟨start, fetch, email, name, head, out, rfl, hfetch, -, -, -, -, -, hall, earlier, failed, kept',
    rfl, hearlier⟩ := hbefore.last_beforeMerge
  have hcheckout : PlanItem.call ["checkout", "FETCH_HEAD"] ∈ r.checkoutPlan ++ r.additions := by
    simp [CloneRequest.checkoutPlan]
  obtain ⟨x, hx, hxargs⟩ := hearlier.exists_call hcheckout
  refine ⟨hargs, earlier ++ failed, fetch, [email, name, head], rfl, ⟨x, ?_, hxargs⟩, ?_, hfetch⟩
  · exact List.mem_append_left _ hx
  · exact hall fetch (by simp)

/-! ## Refspecs -/

theorem given_ne_empty (text : Option String) : CloneRequest.given? text ≠ some "" := by
  rw [← filter_nonempty]
  intro h
  have hne := (Option.filter_eq_some_iff.mp h).2
  exact absurd hne (by decide)

theorem wanted_ne_empty (r : CloneRequest) : r.wanted ≠ some "" := by
  rw [← given_wanted]
  exact given_ne_empty _

theorem given_of_ne_empty {text : String} (h : text ≠ "") :
    CloneRequest.given? (some text) = some text := by
  rw [← filter_nonempty]
  simp [h]

theorem getLast_fetchLine (submodules : Bool) (depth : Int) (remote : String) (refspec : Option String) :
    (CloneRequest.fetchLine submodules depth remote refspec).getLast? = some (refspec.getD "--force") := by
  unfold CloneRequest.fetchLine
  cases refspec with
  | none =>
    rw [Option.toList_none, List.append_nil, List.getLast?_append]
    rfl
  | some refspec =>
    rw [Option.toList_some, List.getLast?_concat]
    rfl

/-- A refspec that is not empty is the last word of its fetch, and without one the last word is not
empty either. -/
theorem getLast_fetchLine_ne (submodules : Bool) (depth : Int) (remote : String) {refspec : Option String}
    (h : refspec ≠ some "") :
    (CloneRequest.fetchLine submodules depth remote refspec).getLast? ≠ some "" := by
  rw [getLast_fetchLine]
  cases refspec with
  | none => decide
  | some refspec => exact h

/-- No fetch of a checkout ends with an empty refspec. -/
theorem Performed.fetch_getLast_ne (h : Performed ctx attempts kept r.plan t final) (he : e ∈ t)
    (hsub : e.subcommand = "fetch") : e.args.getLast? ≠ some "" := by
  obtain ⟨item, hitem, kept', hargs⟩ := h.exists_item he
  have hfetch : item.subcommand = "fetch" := by
    rw [← PlanItem.subcommand_of_args hargs]
    exact hsub
  rcases fetches_of_plan hitem hfetch with rfl | rfl | rfl
  · rw [← Option.some.inj hargs]
    exact getLast_fetchLine_ne _ _ _ (wanted_ne_empty r)
  · rw [← Option.some.inj hargs]
    exact getLast_fetchLine_ne _ _ _ (given_ne_empty _)
  · rw [← Option.some.inj hargs]
    decide

/-- What was fetched for a merge was not asked for by an empty name. -/
theorem Performed.not_fetchedForMerge_empty (h : Performed ctx attempts kept r.plan t final)
    (ht : t = before ++ after) (remote : String) : ¬ FetchedForMerge r remote (some "") before := by
  rintro ⟨clone, fetch, rest, rfl, -, -, hargs⟩
  have hfetch : fetch ∈ t := by
    rw [ht]
    simp
  have hsub : fetch.subcommand = "fetch" := by
    rw [Exchange.subcommand, hargs]
    rfl
  refine h.fetch_getLast_ne hfetch hsub ?_
  rw [hargs, getLast_fetchLine]
  rfl

open Clone

/-- **The branch that is merged has been fetched, unless its name is empty.** Wherever a run comes to a
merge, the reference that it merges is the target branch of the remote, and what was fetched for the merge
is the target branch if it has a name and otherwise what the remote gives by default. So the branch that is
merged was named by the fetch just if the name is not empty. -/
theorem merged_branch_fetched_iff (policy : RetryPolicy) {r : CloneRequest} {m : Machine Script}
    {before after : List Exchange} {e : Exchange} (hvalid : r.validate = .ok ())
    (ht : transcript m ((run (Git.client Script.runner policy) r).exec m).2 = before ++ e :: after)
    (hmerge : e.subcommand = "merge") :
    e.args = ["merge", s!"{r.mergeRemote}/{r.targetBranch}", "--no-commit", "--no-ff",
        "--allow-unrelated-histories"] ∧
      FetchedForMerge r r.mergeRemote (CloneRequest.given? (some r.targetBranch)) before ∧
      (FetchedForMerge r r.mergeRemote (some r.targetBranch) before ↔ r.targetBranch ≠ "") := by
  rcases performed_run policy m hvalid with hnone | ⟨ctx, final, hperformed⟩
  · rw [hnone] at ht
    exact absurd ht (by simp)
  · obtain ⟨hargs, hfetched⟩ := hperformed.merge_in_checkout ht hmerge
    refine ⟨hargs, hfetched, fun hnamed hempty => ?_, fun hne => ?_⟩
    · rw [hempty] at hnamed
      exact hperformed.not_fetchedForMerge_empty ht _ hnamed
    · rwa [given_of_ne_empty hne] at hfetched

/-- A target branch without a name, with a script that lets everything succeed: the run comes to the merge
of `origin/`, and nothing was fetched by that name. -/
theorem merged_branch_not_fetched_of_empty :
    let r := { CloneRequest.new "https://e.org/x" with mergeTargetBranch := true, targetBranch := "" }
    let m : Machine Script := Machine.bare ⟨[], [], []⟩
    r.validate = .ok () ∧
      ∃ before e after,
        transcript m ((run (Git.client Script.runner .default) r).exec m).2 = before ++ e :: after ∧
        e.args = ["merge", "origin/", "--no-commit", "--no-ff", "--allow-unrelated-histories"] ∧
        ¬ FetchedForMerge r "origin" (some "") before := by
  intro r m
  have hvalid : r.validate = .ok () := rfl
  have hremote : r.mergeRemote = "origin" := by decide
  have hmade : ∃ e ∈ transcript m ((run (Git.client Script.runner .default) r).exec m).2,
      e.subcommand = "merge" := by
    decide +kernel
  obtain ⟨e, he, hsub⟩ := hmade
  obtain ⟨before, after, ht⟩ := List.append_of_mem he
  obtain ⟨hargs, -, hiff⟩ := merged_branch_fetched_iff .default hvalid ht hsub
  rw [hremote] at hargs hiff
  exact ⟨hvalid, before, e, after, ht, hargs, fun hnamed => hiff.mp hnamed rfl⟩

end Checkout
