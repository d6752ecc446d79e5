import Checkout.Proofs.Retry.Attempt
import Checkout.Proofs.Retry.Build
import Mathlib.Order.Bounds.Basic

/-!
# The law of a retried operation

An operation is given by the results of its calls, the first one having the number one. It notes for
each call how many pauses there had been before, so the order of calls and pauses can be read off the
machine afterwards.

Results:
* `Tries.exists_endsAt`: the invariant of the loop, by induction on the attempts;
* `run_stops_at_first_end`: an enabled policy makes calls until the first result that ends the
  attempts, or until none is left, and a disabled one makes a single call.
-/

namespace Checkout.RetryPolicy

/-- The operation whose calls have these results. Its state has one entry for each call so far: how
many pauses there had been before it. -/
def answering (results : Nat → Attempted) : Run (List Nat) CommandOutput := do
  let m ← get
  set { m with repo := m.repo ++ [m.pauses.length] }
  Run.ofExcept (results (m.repo.length + 1))

variable {p : RetryPolicy} {r : Attempted}

theorem exec_answering (results : Nat → Attempted) (m : Machine (List Nat)) :
    (answering results).exec m =
      (results (m.repo.length + 1), { m with repo := m.repo ++ [m.pauses.length] }) := by
  simp [answering, Run.exec_bind]

/-! ## The loop -/

/-- How the attempts from number `first` on end when `last` is the greatest permitted number: they end
with number `n`, the first one that is `last` or whose result ends them. Each of them saw one pause
more than the one before, and there was none after the last. -/
structure EndsAt (p : RetryPolicy) (results : Nat → Attempted) (first last : Nat)
    (m : Machine (List Nat)) (n : Nat) (o : RetryOutcome) (m' : Machine (List Nat)) : Prop where
  first_le : first ≤ n
  le_last : n ≤ last
  goes_on : ∀ i, first ≤ i → i < n → ¬ Ends p (results i)
  ends : Ends p (results n) ∨ n = last
  result : o.result = results n
  attempts : o.attempts = n
  stop : StopsFor p (results n) o.stop
  calls : m'.repo = m.repo ++ (List.range (n + 1 - first)).map (m.pauses.length + ·)
  pauses : m'.pauses.length = m.pauses.length + (n - first)

variable {results : Nat → Attempted} {first last : Nat} {delay : Duration}

/-- An attempt that is the last one: the machine has one call more and no further pause. -/
theorem endsAt_self {m m' : Machine (List Nat)} {stop : StopReason}
    (hcall : m'.repo = m.repo ++ [m.pauses.length]) (hpauses : m'.pauses = m.pauses)
    (hlast : first ≤ last) (hends : Ends p (results first) ∨ first = last)
    (hstop : StopsFor p (results first) stop) :
    EndsAt p results first last m first ⟨results first, first, stop⟩ m' where
  first_le := Nat.le_refl _
  le_last := hlast
  goes_on := fun i h1 h2 => absurd h2 (Nat.not_lt.mpr h1)
  ends := hends
  result := rfl
  attempts := rfl
  stop := hstop
  calls := by simp [hcall]
  pauses := by simp [hpauses]

/-- The machine after a call that is followed by a pause. -/
def afterPause (m : Machine (List Nat)) (records : List Record) (delay : Duration) :
    Machine (List Nat) :=
  (({ m with repo := m.repo ++ [m.pauses.length] } : Machine (List Nat)).noting records).resting delay

/-- An attempt that is not the last one goes before those that follow it. -/
theorem EndsAt.cons {m m' : Machine (List Nat)} {records : List Record} {n : Nat} {o : RetryOutcome}
    (hfirst : ¬ Ends p (results first))
    (h : EndsAt p results (first + 1) last (afterPause m records delay) n o m') :
    EndsAt p results first last m n o m' where
  first_le := Nat.le_of_succ_le h.first_le
  le_last := h.le_last
  goes_on := fun i h1 h2 => by
    rcases Nat.eq_or_lt_of_le h1 with rfl | hlt
    · exact hfirst
    · exact h.goes_on i hlt h2
  ends := h.ends
  result := h.result
  attempts := h.attempts
  stop := h.stop
  calls := by
    have hn : n + 1 - first = (n + 1 - (first + 1)) + 1 := by have := h.first_le; omega
    rw [h.calls, hn, List.range_succ_eq_map]
    simp [afterPause, Machine.noting, Machine.resting, Function.comp_def, Nat.add_assoc, Nat.add_comm 1]
  pauses := by
    rw [h.pauses]
    have := h.first_le
    simp [afterPause, Machine.noting, Machine.resting]
    omega

/-- **The invariant of the loop**: with `left` attempts left after it, an attempt ends the run or is
followed by a pause and the attempts after it. -/
theorem Tries.exists_endsAt {left : Nat} {m m' : Machine (List Nat)} {o : RetryOutcome}
    (h : Tries p (answering results) left first delay m o m') (hm : m.repo.length + 1 = first) :
    ∃ n, EndsAt p results first (first + left) m n o m' := by
  induction h with
  | @last left first delay m m' r stop records hcall he =>
    rw [exec_answering, hm] at hcall
    cases hcall
    obtain ⟨hstop, hends⟩ := stopsFor_of_ending he
    refine ⟨first, endsAt_self rfl rfl (Nat.le_add_right _ _) (hends.imp_right ?_) hstop⟩
    intro hleft
    rw [hleft, Nat.add_zero]
  | @again left first delay m m' n r o hcall he _ ih =>
    rw [exec_answering, hm] at hcall
    cases hcall
    obtain ⟨k, hk⟩ := ih (by simp [Machine.noting, Machine.resting, hm])
    rw [Nat.add_right_comm, Nat.add_assoc] at hk
    exact ⟨k, EndsAt.cons (not_ends_of_ending he).1 hk⟩

/-! ## The whole run -/

theorem run_endsAt (results : Nat → Attempted) (he : p.enabled = true) {m : Machine (List Nat)}
    (hm : m.repo = []) :
    ∃ n, EndsAt p results 1 p.maxAttempts.count m n
      (p.run (answering results) m).1 (p.run (answering results) m).2 := by
  have hlast : 1 + (p.maxAttempts.count - 1) = p.maxAttempts.count :=
    Nat.add_sub_cancel' p.maxAttempts.one_le_count
  obtain ⟨n, hn⟩ := (tries_attemptFrom p (answering results) (p.maxAttempts.count - 1) 1 p.baseDelay
    (m.noting [p.startRecord])).exists_endsAt (by simp [Machine.noting, hm])
  rw [hlast, ← run_of_enabled he] at hn
  exact ⟨n, hn.first_le, hn.le_last, hn.goes_on, hn.ends, hn.result, hn.attempts, hn.stop,
    hn.calls, hn.pauses⟩

/-- The attempts end with the first number that ends them. -/
theorem EndsAt.isLeast {m m' : Machine (List Nat)} {n : Nat} {o : RetryOutcome}
    (h : EndsAt p results first last m n o m') :
    IsLeast {i | first ≤ i ∧ (Ends p (results i) ∨ i = last)} n := by
  refine ⟨⟨h.first_le, h.ends⟩, fun i hi => ?_⟩
  obtain ⟨hfirst, hend⟩ := hi
  by_contra hlt
  rw [not_le] at hlt
  rcases hend with hend | rfl
  · exact h.goes_on i hfirst hlt hend
  · exact absurd h.le_last (Nat.not_le.mpr hlt)

/-- The number of calls of a whole run. -/
theorem EndsAt.repo_length {m m' : Machine (List Nat)} {n : Nat} {o : RetryOutcome}
    (h : EndsAt p results 1 last m n o m') (hm : m.repo = []) : m'.repo.length = n := by
  rw [h.calls, hm]
  simp

theorem run_single (he : p.enabled = false) {m : Machine (List Nat)} (hm : m.repo = []) :
    p.run (answering results) m =
      (⟨results 1, 1, if isSuccess (results 1) = true then .succeeded else .attemptsExhausted⟩,
        { m with repo := [m.pauses.length] }) := by
  have hcall := exec_answering results m
  rw [hm] at hcall
  exact run_of_not_enabled he hcall

/-- **The law of a retried operation.** Under a policy that presets and steps can make, a run makes `n`
calls and carries the result of the last one, its counter fits into 32 bits, and call `i` sees
`i - 1` pauses, of which there are `n - 1` in the end. Unless a step disabled the policy, `n` is the
first number from 1 on whose result ends the attempts or which is the greatest permitted one; if a
step did, wherever it stood, `n` is 1. -/
theorem run_stops_at_first_end (start : Preset) (steps : List BuildStep) {p : RetryPolicy}
    (hp : build start steps = .ok p) (results : Nat → Attempted) (m : Machine (List Nat))
    (hm : m.repo = []) :
    1 ≤ p.maxAttempts.count ∧
    ∃ n, n < UInt32.size ∧
      (p.run (answering results) m).1.attempts = n ∧
      (p.run (answering results) m).1.result = results n ∧
      (p.run (answering results) m).2.repo = (List.range n).map (m.pauses.length + ·) ∧
      (p.run (answering results) m).2.pauses.length = m.pauses.length + (n - 1) ∧
      (.disabled ∉ steps →
        IsLeast {i | 1 ≤ i ∧ (Ends p (results i) ∨ i = p.maxAttempts.count)} n ∧
        StopsFor p (results n) (p.run (answering results) m).1.stop) ∧
      (.disabled ∈ steps → n = 1 ∧
        (Succeeded (results 1) → (p.run (answering results) m).1.stop = .succeeded) ∧
        (¬ Succeeded (results 1) →
          (p.run (answering results) m).1.stop = .attemptsExhausted)) := by
  obtain ⟨hone, hmax⟩ := build_maxAttempts hp
  refine ⟨hone, ?_⟩
  by_cases hd : .disabled ∈ steps
  · have he : p.enabled = false := by
      rw [← Bool.not_eq_true, build_enabled_iff hp]
      exact not_not_intro hd
    rw [run_single he hm]
    refine ⟨1, by decide, rfl, rfl, by simp, by simp, fun h => absurd hd h, fun _ => ⟨rfl, ?_, ?_⟩⟩
    · intro hs
      exact if_pos (isSuccess_iff.mpr hs)
    · intro hs
      exact if_neg fun h => hs (isSuccess_iff.mp h)
  · obtain ⟨n, hn⟩ := run_endsAt results ((build_enabled_iff hp).mpr hd) hm
    refine ⟨n, Nat.lt_of_le_of_lt hn.le_last hmax, hn.attempts, hn.result, ?_, hn.pauses,
      fun _ => ⟨hn.isLeast, hn.stop⟩, fun h => absurd h hd⟩
    rw [hn.calls, hm, Nat.add_sub_cancel, List.nil_append]

/-- A machine on which nothing has happened yet. -/
def idleMachine : Machine (List Nat) := ⟨.empty, [], [], fun _ => none, [], [], []⟩

/-- A failure with exit code 7 and then failures with 9, under a policy of three attempts that stops on
9 only: the second attempt ends them, and one is left. -/
theorem run_stops_at_first_end_of_stop_code :
    let policy := (RetryPolicy.imageRegistry.withMaxAttempts 3).stopOnExitCodes [9]
    let results : Nat → Attempted := fun i => .ok ⟨"", "", if i = 1 then 7 else 9⟩
    build .imageRegistry [.maxAttempts 3, .stopOnExitCodes [9]] = .ok policy ∧
      idleMachine.repo = [] ∧
      IsLeast {i | 1 ≤ i ∧ (Ends policy (results i) ∨ i = 3)} 2 ∧
      (policy.run (answering results) idleMachine).1.attempts = 2 ∧
      (policy.run (answering results) idleMachine).1.stop = .exitCode 9 := by
  intro policy results
  have hfirst : ¬ Ends policy (results 1) := by
    rintro (h | h | ⟨s, hs, -⟩)
    · exact absurd (show (7 : Int) = 0 from h) (by decide)
    · exact absurd h (by decide)
    · cases hs
  have hsecond : Ends policy (results 2) := Or.inr (Or.inl (by decide))
  obtain ⟨-, n, -, hattempts, -, -, -, henabled, -⟩ :=
    run_stops_at_first_end .imageRegistry [.maxAttempts 3, .stopOnExitCodes [9]] (p := policy) rfl
      results idleMachine rfl
  obtain ⟨hleast, hstop⟩ := henabled (by simp)
  have hn : n = 2 := by
    have hle : n ≤ 2 := hleast.2 ⟨by decide, Or.inl hsecond⟩
    have hone : n ≠ 1 := by
      rintro rfl
      exact hleast.1.2.elim hfirst (by decide)
    have := hleast.1.1
    omega
  subst hn
  refine ⟨rfl, rfl, hleast, hattempts, ?_⟩
  generalize (policy.run (answering results) idleMachine).1.stop = stop at hstop ⊢
  cases hstop with
  | succeeded h => exact absurd (show (9 : Int) = 0 from h) (by decide)
  | exitCode _ _ => rfl
  | outputMatched _ _ _ _ hcode => exact absurd (by decide) hcode
  | attemptsExhausted h => exact absurd hsecond h

end Checkout.RetryPolicy
