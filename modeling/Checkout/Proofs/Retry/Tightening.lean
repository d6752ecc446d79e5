import Checkout.Proofs.Retry.Ceiling

/-!
# Policies that permit less

A policy is tighter than another one if it has the same delays, permits no more attempts and stops on
everything that the other one stops on. Both see the same results until the tighter one ends, so its run is the
beginning of the other one's: what ends the attempts of the looser policy ends those of the tighter one too, and
the delays do not depend on why an attempt was not the last one.

Results:
* `Tightens.ends`, `Tightens.nextDelay`: one attempt and one delay under both policies;
* `Tightens.endsAt_le`, `Tightens.endsAt_eq_of_succeeded`: where the attempts end under both;
* `run_of_tightens`: the two runs.
-/

namespace Checkout.RetryPolicy

/-- The same delays, no more attempts, and at least the same reasons to stop. -/
structure Tightens (tight loose : RetryPolicy) : Prop where
  baseDelay : tight.baseDelay = loose.baseDelay
  factor : tight.factor = loose.factor
  maxDelay : tight.maxDelay = loose.maxDelay
  maxAttempts : tight.maxAttempts.count ≤ loose.maxAttempts.count
  stopExitCodes : loose.stopExitCodes ⊆ tight.stopExitCodes
  stopPatterns : loose.stopPatterns ⊆ tight.stopPatterns

variable {tight loose : RetryPolicy} {results : Nat → Attempted} {r : Attempted}

/-! ## One attempt -/

/-- **A result that ends the attempts** of the looser policy ends those of the tighter one. -/
theorem Tightens.ends (h : Tightens tight loose) (hr : Ends loose r) : Ends tight r := by
  rcases hr with hs | hcode | ⟨s, hs, hmatches⟩
  · exact Or.inl hs
  · exact Or.inr (Or.inl (h.stopExitCodes hcode))
  · exact Or.inr (Or.inr ⟨s, h.stopPatterns hs, hmatches⟩)

theorem Tightens.nextDelay (h : Tightens tight loose) : tight.nextDelay = loose.nextDelay := by
  funext d
  unfold RetryPolicy.nextDelay
  rw [h.factor, h.maxDelay]

/-- The reason that counts for a success. -/
theorem StopsFor.eq_succeeded {p : RetryPolicy} {stop : StopReason} (h : StopsFor p r stop)
    (hr : Succeeded r) : stop = .succeeded := by
  cases h with
  | succeeded => rfl
  | exitCode hfailed => exact absurd hr hfailed
  | outputMatched _ _ _ hfailed => exact absurd hr hfailed
  | attemptsExhausted hgoes => exact absurd (Or.inl hr) hgoes

/-! ## All attempts -/

section Loops

variable {first last last' n n' : Nat} {m₁ m₁' m₂ m₂' : Machine (List Nat)} {o o' : RetryOutcome}

/-- **The attempts of the tighter policy end first.** -/
theorem Tightens.endsAt_le (h : Tightens tight loose) (hlast : last ≤ last')
    (ht : EndsAt tight results first last m₁ n o m₁') (hl : EndsAt loose results first last' m₂ n' o' m₂') :
    n ≤ n' := by
  rcases hl.ends with hends | rfl
  · exact ht.isLeast.2 ⟨hl.first_le, Or.inl (h.ends hends)⟩
  · exact ht.le_last.trans hlast

/-- Where the tighter policy has success the looser one ends too, as a success ends the attempts under any
policy. -/
theorem Tightens.endsAt_eq_of_succeeded (h : Tightens tight loose) (hlast : last ≤ last')
    (ht : EndsAt tight results first last m₁ n o m₁') (hl : EndsAt loose results first last' m₂ n' o' m₂')
    (hr : Succeeded (results n)) : n' = n :=
  Nat.le_antisymm (hl.isLeast.2 ⟨ht.first_le, Or.inl (Or.inl hr)⟩) (h.endsAt_le hlast ht hl)

end Loops

/-! ## Two runs -/

/-- **A tighter policy only shortens runs.** Of two enabled policies, on the same results, the tighter one makes
no more calls, and its pauses are the first ones of the looser one. After the same number of calls both carry
the same result. If the tighter one succeeds, so does the looser one, with the same output after the same number
of calls. -/
theorem run_of_tightens (h : Tightens tight loose) (ht : tight.enabled = true) (hl : loose.enabled = true)
    (results : Nat → Attempted) (m : Machine (List Nat)) (hm : m.repo = []) :
    let short := tight.run (answering results) m
    let long := loose.run (answering results) m
    short.2.repo.length ≤ long.2.repo.length ∧
      (∃ waits more, short.2.pauses = m.pauses ++ waits ∧ long.2.pauses = m.pauses ++ (waits ++ more)) ∧
      (short.2.repo.length = long.2.repo.length → short.1.result = long.1.result) ∧
      (Succeeded short.1.result → short.1.stop = .succeeded ∧ long.1.stop = .succeeded ∧
        long.1.result = short.1.result ∧ long.2.repo.length = short.2.repo.length) := by
  intro short long
  obtain ⟨n, hshort⟩ := run_endsAt results ht hm
  obtain ⟨n', hlong⟩ := run_endsAt results hl hm
  have hle : n ≤ n' := h.endsAt_le h.maxAttempts hshort hlong
  have hcalls : short.2.repo.length = n := hshort.repo_length hm
  have hcalls' : long.2.repo.length = n' := hlong.repo_length hm
  have hresult : n' = n → long.1.result = short.1.result := by
    rintro rfl
    exact hlong.result.trans hshort.result.symm
  refine ⟨by omega, ?_, fun hequal => (hresult (by omega)).symm, fun hr => ?_⟩
  · have hpauses := run_pauses tight (restless_answering results) m
    have hpauses' := run_pauses loose (restless_answering results) m
    rw [hshort.attempts] at hpauses
    obtain ⟨gap, hgap⟩ : ∃ gap, n' - 1 = n - 1 + gap := ⟨n' - 1 - (n - 1), by omega⟩
    rw [hlong.attempts, hgap, List.iterate_add, ← h.nextDelay, ← h.baseDelay] at hpauses'
    exact ⟨_, _, hpauses, hpauses'⟩
  · have hresults : Succeeded (results n) := hshort.result ▸ hr
    obtain rfl : n' = n := h.endsAt_eq_of_succeeded h.maxAttempts hshort hlong hresults
    exact ⟨hshort.stop.eq_succeeded hresults, hlong.stop.eq_succeeded hresults, hresult rfl, by omega⟩

/-- Two failures and a success. The tighter policy stops on the exit code of the second failure. -/
theorem run_of_tightens_of_two_failures :
    let tight := (default.withMaxAttempts 2).stopOnExitCodes [7]
    let results : Nat → Attempted := fun n => .ok ⟨"", "", if n = 3 then 0 else 5 + n⟩
    Tightens tight default ∧ tight.enabled = true ∧ default.enabled = true ∧ idleMachine.repo = [] ∧
      (tight.run (answering results) idleMachine).2.repo.length ≤
        (default.run (answering results) idleMachine).2.repo.length := by
  intro tight results
  have htightens : Tightens tight default := ⟨rfl, rfl, rfl, by decide, by simp [default], by simp [default]⟩
  exact ⟨htightens, rfl, rfl, rfl, (run_of_tightens htightens rfl rfl results idleMachine rfl).1⟩

end Checkout.RetryPolicy
