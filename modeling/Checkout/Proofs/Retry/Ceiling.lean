import Checkout.Proofs.Retry.Law
import Mathlib.Data.List.Iterate

/-!
# Pauses and their ceiling

The pauses of a run are the base delay and the delays that follow it, one after each attempt but the last.
A ceiling is applied to a delay when it follows another one. So it holds from the second pause on, and the
first pause is the base delay, however long that is.

Results:
* `Tries.pauses_eq`: the pauses of the loop, by induction on the attempts;
* `pauses_le_ceiling_iff`: when the pauses of a run stay below the ceiling.
-/

namespace Checkout.RetryPolicy

variable {ρ : Type} {p : RetryPolicy} {op : Run ρ CommandOutput}

/-! ## Delays one after another -/

/-- **A delay that follows another one** is not longer than the ceiling. -/
theorem nextDelay_le {ceiling : Duration} (h : p.maxDelay = some ceiling) (d : Duration) :
    (p.nextDelay d).nanos ≤ ceiling.nanos := by
  unfold nextDelay
  rw [h]
  dsimp only
  by_cases hlong : ceiling.nanos < (grow p.factor d).nanos
  · rw [if_pos hlong]
  · rw [if_neg hlong]
    exact Nat.not_lt.mp hlong

/-- Delays that follow one another are not longer than the ceiling, the first one apart. -/
theorem iterate_tail_le {ceiling : Duration} (h : p.maxDelay = some ceiling) (delay : Duration) (k : Nat) :
    ∀ d ∈ (List.iterate p.nextDelay delay k).tail, d.nanos ≤ ceiling.nanos := by
  induction k generalizing delay with
  | zero => exact fun d hd => by cases hd
  | succ k ih =>
    intro d hd
    cases k with
    | zero => cases hd
    | succ k =>
      rcases List.mem_cons.mp hd with rfl | hd
      · exact nextDelay_le h delay
      · exact ih (p.nextDelay delay) d hd

/-! ## The pauses of a run -/

/-- An operation that takes no pauses itself. -/
def Restless (op : Run ρ CommandOutput) : Prop := ∀ m, (op.exec m).2.pauses = m.pauses

theorem restless_answering (results : Nat → Attempted) : Restless (answering results) := fun m => by
  rw [exec_answering]

/-- **The pauses of the loop**: the delay and those that follow it, one for each attempt before the last. -/
theorem Tries.pauses_eq {left attempt : Nat} {delay : Duration} {m m' : Machine ρ} {o : RetryOutcome}
    (hop : Restless op) (h : Tries p op left attempt delay m o m') :
    ∃ k, o.attempts = attempt + k ∧ m'.pauses = m.pauses ++ List.iterate p.nextDelay delay k := by
  induction h with
  | @last left attempt delay m m' r stop records hcall _ =>
    have hpauses := hop m
    rw [hcall] at hpauses
    exact ⟨0, rfl, hpauses.trans (List.append_nil _).symm⟩
  | @again left attempt delay m m' n r o hcall _ _ ih =>
    have hpauses := hop m
    rw [hcall] at hpauses
    obtain ⟨k, hattempts, hlater⟩ := ih
    refine ⟨k + 1, by omega, ?_⟩
    rw [hlater, List.iterate, ← hpauses, List.append_cons]
    rfl

/-- **The pauses of a run**: none under a policy that is disabled, otherwise the base delay and those that
follow it. -/
theorem run_pauses (p : RetryPolicy) (hop : Restless op) (m : Machine ρ) :
    (p.run op m).2.pauses =
      m.pauses ++ List.iterate p.nextDelay p.baseDelay ((p.run op m).1.attempts - 1) := by
  cases he : p.enabled with
  | true =>
    obtain ⟨k, hattempts, hpauses⟩ := (tries_attemptFrom p op (p.maxAttempts.count - 1) 1 p.baseDelay
      (m.noting [p.startRecord])).pauses_eq hop
    rw [run_of_enabled he, hpauses, hattempts, Nat.add_sub_cancel_left]
    rfl
  | false =>
    rw [run_of_not_enabled he (Prod.eta _).symm]
    exact (hop m).trans (List.append_nil _).symm

/-! ## The ceiling -/

/-- Whether a run makes a second attempt is seen from the policy and the first result. -/
theorem attempts_eq_one_iff {start : Preset} {steps : List BuildStep} (hp : build start steps = .ok p)
    (results : Nat → Attempted) {m : Machine (List Nat)} (hm : m.repo = []) :
    1 ≤ (p.run (answering results) m).1.attempts ∧
      ((p.run (answering results) m).1.attempts = 1 ↔
        .disabled ∈ steps ∨ Ends p (results 1) ∨ p.maxAttempts.count = 1) := by
  cases he : p.enabled with
  | false =>
    have hdisabled : BuildStep.disabled ∈ steps := by
      by_contra hnot
      rw [(build_enabled_iff hp).mpr hnot] at he
      cases he
    rw [run_single he hm]
    exact ⟨Nat.le_refl 1, fun _ => Or.inl hdisabled, fun _ => rfl⟩
  | true =>
    obtain ⟨n, hn⟩ := run_endsAt results he hm
    rw [hn.attempts]
    refine ⟨hn.first_le, fun hone => Or.inr ?_, fun hstop => ?_⟩
    · rw [hone] at hn
      exact hn.ends.imp_right Eq.symm
    · refine Nat.le_antisymm (Nat.not_lt.mp fun hmore => ?_) hn.first_le
      rcases hstop with hdisabled | hends | hmax
      · exact (build_enabled_iff hp).mp he hdisabled
      · exact hn.goes_on 1 (Nat.le_refl 1) hmore hends
      · exact absurd hn.le_last (by omega)

/-- **When the ceiling is one.** Under a policy that presets and steps can make and that has a ceiling, a run
waits for the base delay first and for the delays that follow it then. From the second pause on none is
longer than the ceiling. The first one is not longer either if and only if the base delay is not, or there
is no second attempt: because the policy is disabled, or because the first result ends the attempts, or
because only one is permitted. -/
theorem pauses_le_ceiling_iff (start : Preset) (steps : List BuildStep) {p : RetryPolicy}
    (hp : build start steps = .ok p) {ceiling : Duration} (hceiling : p.maxDelay = some ceiling)
    (results : Nat → Attempted) (m : Machine (List Nat)) (hm : m.repo = []) :
    ∃ waits, (p.run (answering results) m).2.pauses = m.pauses ++ waits ∧
      waits = List.iterate p.nextDelay p.baseDelay ((p.run (answering results) m).1.attempts - 1) ∧
      (∀ d ∈ waits.tail, d.nanos ≤ ceiling.nanos) ∧
      ((∀ d ∈ waits, d.nanos ≤ ceiling.nanos) ↔
        p.baseDelay.nanos ≤ ceiling.nanos ∨
          .disabled ∈ steps ∨ Ends p (results 1) ∨ p.maxAttempts.count = 1) := by
  obtain ⟨hone, hsingle⟩ := attempts_eq_one_iff hp results hm
  refine ⟨_, run_pauses p (restless_answering results) m, rfl, iterate_tail_le hceiling _ _, ?_⟩
  rw [← hsingle]
  generalize (p.run (answering results) m).1.attempts = n at hone
  obtain ⟨k, rfl⟩ := Nat.exists_eq_add_of_le' hone
  rw [Nat.add_sub_cancel]
  cases k with
  | zero => simp
  | succ k =>
    have htail := iterate_tail_le hceiling p.baseDelay (k + 1)
    constructor
    · exact fun hall => Or.inl (hall p.baseDelay List.mem_cons_self)
    · rintro (hbase | hnone) d hd
      · rcases List.mem_cons.mp hd with rfl | hd
        · exact hbase
        · exact htail d hd
      · omega

/-- A base delay of ten minutes under a ceiling of four, and a first attempt that fails. -/
theorem pause_beyond_ceiling_of_long_base :
    let steps : List BuildStep := [.baseDelay (.ofSeconds 600), .maxAttempts 2]
    let p := (RetryPolicy.imageRegistry.withBaseDelay (.ofSeconds 600)).withMaxAttempts 2
    build .imageRegistry steps = .ok p ∧ p.maxDelay = some (.ofSeconds 240) ∧ idleMachine.repo = [] ∧
      ∃ d ∈ (p.run (answering fun _ => .ok ⟨"", "", 1⟩) idleMachine).2.pauses,
        (Duration.ofSeconds 240).nanos < d.nanos := by
  intro steps p
  have hp : build .imageRegistry steps = .ok p := rfl
  have hceiling : p.maxDelay = some (.ofSeconds 240) := rfl
  refine ⟨hp, hceiling, rfl, ?_⟩
  obtain ⟨waits, hpauses, -, -, hiff⟩ :=
    pauses_le_ceiling_iff .imageRegistry steps hp hceiling (fun _ => .ok ⟨"", "", 1⟩) idleMachine rfl
  have hnot : ¬ ∀ d ∈ waits, d.nanos ≤ (Duration.ofSeconds 240).nanos := by
    rw [hiff]
    have hgoes : ¬ Ends p (.ok ⟨"", "", 1⟩) := by
      simp [Ends, Succeeded, exitCodeOf, p, RetryPolicy.imageRegistry, RetryPolicy.default,
        withBaseDelay, withMaxAttempts]
    rintro (hbase | hdisabled | hends | hmax)
    · exact absurd hbase (by decide)
    · simp [steps] at hdisabled
    · exact hgoes hends
    · exact absurd hmax (by decide)
  rw [hpauses]
  push Not at hnot
  exact hnot

end Checkout.RetryPolicy
