import Checkout.Process.Scripted
import Checkout.Proofs.Retry.Attempt

/-!
# Git from a script

What a script does to a machine when it answers a command, and what a retried command of a script
amounts to. Log and pauses do not matter to a script, so machines are compared without them.

Results:
* `exec_runner`: one command is answered and recorded;
* `run_repeated`: under any policy a command is repeated until an answer that is a success, or for as
  long as the policy lets it, and at least once.
-/

namespace Checkout

/-- The answer of a script to a command. -/
def Script.reply (s : Script) (c : Command) : Attempted :=
  match (s.next (c.args.headD "")).outcome with
  | .ok out => .ok out
  | .error (program, message) => .error (.spawn program message)

/-- The machine after its script has answered a command. -/
def Machine.answered (m : Machine Script) (c : Command) : Machine Script :=
  { m with
    repo := { m.repo.advance (c.args.headD "") with
      calls := (m.repo.advance (c.args.headD "")).calls ++ [c] }
    files := Fixture.createAll (m.repo.advance (c.args.headD "")).base m.files
      (m.repo.next (c.args.headD "")).effects }

theorem exec_runner (c : Command) (m : Machine Script) :
    (Script.runner c).exec m = (m.repo.reply c, m.answered c) := by
  simp only [Script.runner, Run.exec_bind, Run.exec_get, Run.exec_set, Script.reply]
  cases (m.repo.next (c.args.headD "")).outcome <;> rfl

theorem calls_answered (m : Machine Script) (c : Command) :
    (m.answered c).repo.calls = m.repo.calls ++ [c] := rfl

/-! ## Repeated commands -/

/-- A command was made so many times, all calls but the last one failed, and `r` is the answer to the
last one. -/
inductive Repeated (c : Command) : Nat → Machine Script → Attempted → Machine Script → Prop
  | once (m : Machine Script) : Repeated c 1 m (m.repo.reply c) (m.answered c)
  | again {k : Nat} {m m' : Machine Script} {r : Attempted} :
      ¬ Succeeded (m.repo.reply c) → Repeated c k (m.answered c) r m' → Repeated c (k + 1) m r m'

theorem Repeated.calls {c : Command} {k : Nat} {m m' : Machine Script} {r : Attempted}
    (h : Repeated c k m r m') : m'.repo.calls = m.repo.calls ++ List.replicate k c := by
  induction h with
  | once m => exact calls_answered m c
  | @again k m _ _ _ _ ih =>
    rw [ih, calls_answered, List.replicate_succ, List.append_assoc, List.singleton_append]

namespace RetryPolicy

/-- With `left` attempts left after it, an attempt is followed by at most `left` more. -/
theorem Tries.repeated {p : RetryPolicy} {c : Command} {left attempt : Nat} {delay : Duration}
    {m m' : Machine Script} {o : RetryOutcome}
    (h : Tries p (Script.runner c) left attempt delay m o m') :
    ∃ k, 1 ≤ k ∧ k ≤ left + 1 ∧ o.attempts + 1 = attempt + k ∧
      Repeated c k m.silent o.result m'.silent := by
  induction h with
  | @last left attempt delay m m' r stop records hcall _ =>
    rw [exec_runner] at hcall
    cases hcall
    exact ⟨1, Nat.le_refl _, Nat.le_add_left _ _, rfl, .once m.silent⟩
  | @again left attempt delay m m' n r o hcall he _ ih =>
    rw [exec_runner] at hcall
    cases hcall
    obtain ⟨k, hone, hk, hn, hr⟩ := ih
    have hfailed : ¬ Succeeded (m.repo.reply c) := fun hs => (not_ends_of_ending he).1 (Or.inl hs)
    exact ⟨k + 1, Nat.le_add_left _ _, Nat.succ_le_succ hk, by omega, .again hfailed hr⟩

/-- **A command under a policy is repeated** at least once and at most as often as the policy permits,
and the outcome counts the calls. -/
theorem run_repeated (p : RetryPolicy) (c : Command) (m : Machine Script) :
    ∃ k, 1 ≤ k ∧ k ≤ p.maxAttempts.count ∧ (p.run (Script.runner c) m).1.attempts = k ∧
      Repeated c k m.silent (p.run (Script.runner c) m).1.result
        (p.run (Script.runner c) m).2.silent := by
  cases he : p.enabled with
  | true =>
    obtain ⟨k, hone, hk, hn, hr⟩ := (tries_attemptFrom p (Script.runner c) (p.maxAttempts.count - 1) 1
      p.baseDelay (m.noting [p.startRecord])).repeated
    rw [← run_of_enabled he] at hn hr
    have := p.maxAttempts.one_le_count
    exact ⟨k, hone, by omega, by omega, hr⟩
  | false =>
    rw [run_of_not_enabled he (exec_runner c m)]
    exact ⟨1, Nat.le_refl _, p.maxAttempts.one_le_count, rfl, .once m.silent⟩

end RetryPolicy

end Checkout
