import Checkout.Proofs.Retry.Law
import Checkout.Proofs.Text.LowerCase

/-!
# Texts to stop at

A policy that stops at a text looks for the lower case of the text in the lower case of what an attempt wrote.
So an attempt that wrote the text is the last one if the lower case of the text is part of that of the output.
This is so wherever the text stands in the output if it decides about its capital sigmas, and only then: behind
`ΑΣ` a further letter keeps the sigma from being final, and `ας` is not found in `ασα`.

Results:
* `Ends.of_containsText`: an attempt that is the last one because of a text;
* `alwaysStops_iff_containsText`: when a policy that has been told to stop at a text always does;
* `alwaysStops_iff`: the texts of which this is true.
-/

namespace Checkout.RetryPolicy

open Text

variable {p : RetryPolicy}

/-- After a failed attempt that wrote the text, a policy that has been told to stop at it makes no further
attempt. -/
def AlwaysStops (text : String) : Prop :=
  ∀ (start : Preset) (steps : List BuildStep) (p : RetryPolicy), build start steps = .ok p →
    .stopIfOutputContains text ∈ steps →
      ∀ (results : Nat → Attempted) (m : Machine (List Nat)), m.repo = [] →
        ∀ (i : Nat) (out : CommandOutput), 1 ≤ i → results i = .ok out → out.exitCode ≠ 0 →
          (containsText out.stdout text = true ∨ containsText out.stderr text = true) →
            (p.run (answering results) m).2.repo.length ≤ i

/-- After a result that ends the attempts no further one is made, whether the policy is enabled or not. -/
theorem run_repo_length_le {results : Nat → Attempted} {m : Machine (List Nat)} {i : Nat} (hm : m.repo = [])
    (hi : 1 ≤ i) (hends : Ends p (results i)) : (p.run (answering results) m).2.repo.length ≤ i := by
  cases he : p.enabled with
  | true =>
    obtain ⟨n, hn⟩ := run_endsAt results he hm
    rw [hn.repo_length hm]
    exact hn.isLeast.2 ⟨hi, Or.inl hends⟩
  | false =>
    rw [run_single he hm]
    exact hi

/-- **An attempt that wrote a text** is the last one if the lower case of the text is part of that of the
output. -/
theorem Ends.of_containsText {text : String} {out : CommandOutput}
    (htext : .contains (toLower text) ∈ p.stopPatterns)
    (hlower : ∀ output, containsText output text = true → containsText (toLower output) (toLower text) = true)
    (hout : containsText out.stdout text = true ∨ containsText out.stderr text = true) : Ends p (.ok out) :=
  Or.inr (Or.inr ⟨_, htext, hout.imp (hlower _) (hlower _)⟩)

/-- A policy that stops at a text and at nothing else ends with an output if the output in lower case holds the
text in lower case. -/
theorem containsText_of_ends {text output : String}
    (h : Ends (default.stopIfOutputContains text) (.ok ⟨output, "", 1⟩)) :
    containsText (toLower output) (toLower text) = true := by
  rcases h with hs | hcode | ⟨s, hs, hmatches⟩
  · cases hs
  · cases hcode
  · obtain rfl : s = .contains (toLower text) := List.mem_singleton.mp hs
    rcases hmatches with hfound | hempty
    · exact hfound
    · -- Nothing is found on the second stream but the empty text, and that is found anywhere.
      have hnone : (toLower text).toList = [] := List.infix_nil.mp (isInfix_iff.mp hempty)
      unfold containsText
      rw [isInfix_iff, hnone]
      exact List.nil_infix

/-- **A policy always stops at a text** if whatever holds the text holds it in lower case too, and only then, as a
policy that stops at nothing else shows. -/
theorem alwaysStops_iff_containsText (text : String) :
    AlwaysStops text ↔
      ∀ output, containsText output text = true → containsText (toLower output) (toLower text) = true := by
  constructor
  · intro h output houtput
    have hcalls := h .default [.stopIfOutputContains text] (default.stopIfOutputContains text) rfl
      (List.mem_singleton_self _) (fun _ => .ok ⟨output, "", 1⟩) idleMachine rfl 1 _ (Nat.le_refl 1) rfl
      Int.one_ne_zero (Or.inl houtput)
    obtain ⟨n, hn⟩ : ∃ n, EndsAt (default.stopIfOutputContains text) _ 1 3 idleMachine n _ _ :=
      run_endsAt (fun _ => .ok ⟨output, "", 1⟩) rfl rfl
    rw [hn.repo_length rfl] at hcalls
    obtain rfl : n = 1 := Nat.le_antisymm hcalls hn.first_le
    exact containsText_of_ends (hn.ends.resolve_right (by decide))
  · intro hlower start steps p hp htext results m hm i out hi hresult _ hout
    exact run_repo_length_le hm hi (hresult ▸ Ends.of_containsText (build_contains hp htext) hlower hout)

/-- **At which texts a policy always stops.** A policy that has been told to stop at a text, whatever else has been
said, makes no further attempt after any failed one that wrote the text on one of its streams, if and only if the
text decides about all of its capital sigmas. Texts without a capital sigma do. -/
theorem alwaysStops_iff (text : String) :
    (AlwaysStops text ↔ SigmasDecided text.toList) ∧ ('Σ' ∉ text.toList → AlwaysStops text) := by
  have hiff : AlwaysStops text ↔ SigmasDecided text.toList :=
    (alwaysStops_iff_containsText text).trans containsText_toLower_iff
  exact ⟨hiff, fun hsigma => hiff.mpr (sigmasDecided_of_not_mem hsigma)⟩

/-- A text that ends with a sigma, and one without any. -/
theorem alwaysStops_lost_of_sigma :
    containsText "ΑΣΑ" "ΑΣ" = true ∧ ¬ AlwaysStops "ΑΣ" ∧ 'Σ' ∉ "denied".toList ∧ AlwaysStops "denied" := by
  have hnone : 'Σ' ∉ "denied".toList := by decide
  refine ⟨by decide, fun halways => ?_, hnone, (alwaysStops_iff "denied").2 hnone⟩
  have hdecided : Decided ['Α'] [] := (alwaysStops_iff "ΑΣ").1.mp halways ['Α'] [] rfl
  obtain ⟨c, hc, -⟩ := hdecided.behind (startsCased_letter (by decide) [])
  cases hc

end Checkout.RetryPolicy
