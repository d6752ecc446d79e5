import Checkout.Proofs.Execution
import Checkout.Retry.Run

/-!
# One attempt after another

`Ends` says which results end the attempts whatever their number, `StopsFor` why they end, in the order
in which the reasons count. `ending` decides both for an attempt of a loop.

`Tries` are the derivations of the loop. They go along with any operation, so what a loop does to a
machine of some kind is an induction on them with two cases: the last attempt, and an attempt that is
followed by a pause and by further ones.

Results:
* `ending_spec`: an attempt is the last one iff its result ends the attempts or none is left;
* `tries_iff`: the loop and its derivations.
-/

namespace Checkout

/-- The result of one call. -/
abbrev Attempted := Except Error CommandOutput

/-- A call brought an output with the exit code zero. -/
def Succeeded : Attempted → Prop
  | .ok out => out.exitCode = 0
  | .error _ => False

theorem CommandOutput.isSuccess_eq_true {out : CommandOutput} :
    out.isSuccess = true ↔ out.exitCode = 0 := by
  simp [isSuccess]

theorem isSuccess_iff {r : Attempted} : isSuccess r = true ↔ Succeeded r := by
  cases r with
  | error e => simp [isSuccess, Succeeded]
  | ok out => exact CommandOutput.isSuccess_eq_true

namespace RetryPolicy

/-! ## Results that end the attempts -/

/-- The exit code of a call; -1 if it brought an error. -/
def exitCodeOf : Attempted → Int
  | .ok out => out.exitCode
  | .error _ => -1

/-- What a call wrote on the first stream and on the second; nothing if it brought an error. -/
def streamsOf : Attempted → String × String
  | .ok out => (out.stdout, out.stderr)
  | .error _ => ("", "")

/-- A pattern matches one of the streams. -/
def Matches (s : StopPattern) (r : Attempted) : Prop :=
  s.isMatch (streamsOf r).1 = true ∨ s.isMatch (streamsOf r).2 = true

/-- A result that ends the attempts, however many are left. -/
def Ends (p : RetryPolicy) (r : Attempted) : Prop :=
  Succeeded r ∨ exitCodeOf r ∈ p.stopExitCodes ∨ ∃ s ∈ p.stopPatterns, Matches s r

/-- Why a result is the last one. A success counts before an exit code, an exit code before a pattern,
the first pattern that matches before later ones, and any of them before the number of attempts. -/
inductive StopsFor (p : RetryPolicy) (r : Attempted) : StopReason → Prop
  | succeeded : Succeeded r → StopsFor p r .succeeded
  | exitCode : ¬ Succeeded r → exitCodeOf r ∈ p.stopExitCodes → StopsFor p r (.exitCode (exitCodeOf r))
  | outputMatched (front back : List StopPattern) (s : StopPattern) : ¬ Succeeded r →
      exitCodeOf r ∉ p.stopExitCodes → p.stopPatterns = front ++ s :: back →
      (∀ t ∈ front, ¬ Matches t r) → Matches s r → StopsFor p r (.outputMatched s.text)
  | attemptsExhausted : ¬ Ends p r → StopsFor p r .attemptsExhausted

variable {p : RetryPolicy} {r : Attempted}

theorem visibleOutput_exitCode : (visibleOutput r).exitCode = exitCodeOf r := by
  cases r <;> rfl

theorem visibleOutput_matches (s : StopPattern) :
    (s.isMatch (visibleOutput r).stdout || s.isMatch (visibleOutput r).stderr) = true ↔
      Matches s r := by
  cases r <;> simp [visibleOutput, Matches, streamsOf]

/-- **The stop condition holds of exactly the results that end the attempts** without a success. -/
theorem stopCondition_eq_none_iff (hr : ¬ Succeeded r) :
    p.stopCondition (visibleOutput r) = none ↔ ¬ Ends p r := by
  unfold stopCondition Ends
  rw [visibleOutput_exitCode]
  by_cases hc : exitCodeOf r ∈ p.stopExitCodes
  · simp [hc]
  · simp only [List.contains_eq_mem, hc, decide_false, Bool.false_eq_true, if_false,
      Option.map_eq_none_iff, List.find?_eq_none, visibleOutput_matches, hr, false_or,
      not_exists, not_and]

/-- The reason that the stop condition gives is the one that counts. -/
theorem stopsFor_of_stopCondition {stop : StopReason} (hr : ¬ Succeeded r)
    (h : p.stopCondition (visibleOutput r) = some stop) : StopsFor p r stop := by
  unfold stopCondition at h
  rw [visibleOutput_exitCode] at h
  by_cases hc : exitCodeOf r ∈ p.stopExitCodes
  · rw [if_pos (by simpa using hc)] at h
    cases h
    exact .exitCode hr hc
  · rw [if_neg (by simpa using hc), Option.map_eq_some_iff] at h
    obtain ⟨s, hs, rfl⟩ := h
    obtain ⟨hm, front, back, hsplit, hfront⟩ := List.find?_eq_some_iff_append.mp hs
    refine .outputMatched front back s hr hc hsplit (fun t ht hmt => ?_)
      ((visibleOutput_matches s).mp hm)
    have hf := hfront t ht
    rw [(visibleOutput_matches t).mpr hmt] at hf
    exact absurd hf (by decide)

theorem ends_of_stopCondition {stop : StopReason} (hr : ¬ Succeeded r)
    (h : p.stopCondition (visibleOutput r) = some stop) : Ends p r := by
  refine Classical.byContradiction fun hn => ?_
  rw [(stopCondition_eq_none_iff hr).mpr hn] at h
  cases h

/-! ## One attempt -/

variable {ρ : Type} {op : Run ρ CommandOutput} {attempt left : Nat} {delay : Duration}
  {m m' : Machine ρ} {stop : StopReason} {records : List Record}

/-- The record of a stop condition that holds. -/
def stopRecord (attempt : Nat) (stop : StopReason) : Record :=
  ⟨.debug, .retry, s!"Stopping retries after attempt {attempt}: {stop.text}"⟩

/-- The records of the last permitted attempt. -/
def giveUpRecords (attempt : Nat) (r : Attempted) : List Record :=
  [⟨.debug, .retry, failureText attempt (visibleOutput r)⟩,
    ⟨.info, .retry, s!"Giving up on command after {attempt} attempts"⟩]

/-- The record of a failed attempt that is not the last one. -/
def waitRecord (attempt : Nat) (r : Attempted) (delay : Duration) : Record :=
  ⟨.debug, .retry,
    failureText attempt (visibleOutput r) ++ s!"\nWaiting {delay.text} before next retry"⟩

/-- How an attempt ends the attempts, if it does: why, and what is noted then. -/
def ending (p : RetryPolicy) (attempt left : Nat) (r : Attempted) : Option (StopReason × List Record) :=
  if isSuccess r then some (.succeeded, [])
  else
    match p.stopCondition (visibleOutput r), left with
    | some stop, _ => some (stop, [stopRecord attempt stop])
    | none, 0 => some (.attemptsExhausted, giveUpRecords attempt r)
    | none, _ + 1 => none

/-- **An attempt is the last one** if its result ends the attempts or none is left, and then its reason
is the one that counts. -/
theorem ending_spec (p : RetryPolicy) (attempt left : Nat) (r : Attempted) :
    match p.ending attempt left r with
    | some (stop, _) => StopsFor p r stop ∧ (Ends p r ∨ left = 0)
    | none => ¬ Ends p r ∧ left ≠ 0 := by
  unfold ending
  by_cases hr : isSuccess r = true
  · rw [if_pos hr]
    exact ⟨.succeeded (isSuccess_iff.mp hr), Or.inl (Or.inl (isSuccess_iff.mp hr))⟩
  · rw [if_neg hr]
    have hfailed : ¬ Succeeded r := fun hs => hr (isSuccess_iff.mpr hs)
    cases hs : p.stopCondition (visibleOutput r) with
    | some stop =>
      exact ⟨stopsFor_of_stopCondition hfailed hs, Or.inl (ends_of_stopCondition hfailed hs)⟩
    | none =>
      have hgoes := (stopCondition_eq_none_iff hfailed).mp hs
      cases left with
      | zero => exact ⟨.attemptsExhausted hgoes, Or.inr rfl⟩
      | succ left => exact ⟨hgoes, Nat.succ_ne_zero left⟩

theorem stopsFor_of_ending (h : p.ending attempt left r = some (stop, records)) :
    StopsFor p r stop ∧ (Ends p r ∨ left = 0) := by
  have hspec := ending_spec p attempt left r
  rwa [h] at hspec

theorem not_ends_of_ending (h : p.ending attempt left r = none) : ¬ Ends p r ∧ left ≠ 0 := by
  have hspec := ending_spec p attempt left r
  rwa [h] at hspec

theorem attemptFrom_success (h : op.exec m = (r, m')) (hr : isSuccess r = true) :
    attemptFrom p op attempt delay left m = (⟨r, attempt, .succeeded⟩, m') := by
  unfold attemptFrom
  simp only [bind, StateT.bind, show ExceptT.run op m = (r, m') from h, hr, if_true]
  rfl

theorem attemptFrom_stop (h : op.exec m = (r, m')) (hr : isSuccess r = false)
    (hs : p.stopCondition (visibleOutput r) = some stop) :
    attemptFrom p op attempt delay left m =
      (⟨r, attempt, stop⟩, m'.noting [stopRecord attempt stop]) := by
  unfold attemptFrom
  simp only [bind, StateT.bind, show ExceptT.run op m = (r, m') from h, hr, Bool.false_eq_true,
    if_false, hs]
  rfl

theorem attemptFrom_giveUp (h : op.exec m = (r, m')) (hr : isSuccess r = false)
    (hs : p.stopCondition (visibleOutput r) = none) :
    attemptFrom p op attempt delay 0 m =
      (⟨r, attempt, .attemptsExhausted⟩, m'.noting (giveUpRecords attempt r)) := by
  unfold attemptFrom
  simp only [bind, StateT.bind, show ExceptT.run op m = (r, m') from h, hr, Bool.false_eq_true,
    if_false, hs]
  show (_, { m' with log := m'.log ++ [_] ++ [_] }) = _
  rw [List.append_assoc]
  rfl

theorem attemptFrom_again (h : op.exec m = (r, m')) (hr : isSuccess r = false)
    (hs : p.stopCondition (visibleOutput r) = none) :
    attemptFrom p op attempt delay (left + 1) m =
      attemptFrom p op (attempt + 1) (p.nextDelay delay) left
        ((m'.noting [waitRecord attempt r delay]).resting delay) := by
  rw [attemptFrom]
  simp only [bind, StateT.bind, show ExceptT.run op m = (r, m') from h, hr, Bool.false_eq_true,
    if_false, hs]
  rfl

/-- The last attempt. -/
theorem attemptFrom_of_ending (h : op.exec m = (r, m'))
    (he : p.ending attempt left r = some (stop, records)) :
    attemptFrom p op attempt delay left m = (⟨r, attempt, stop⟩, m'.noting records) := by
  unfold ending at he
  cases hr : isSuccess r with
  | true =>
    rw [if_pos hr] at he
    cases he
    rw [attemptFrom_success h hr, Machine.noting_nil]
  | false =>
    rw [hr, if_neg (by decide)] at he
    cases hs : p.stopCondition (visibleOutput r) with
    | some stop' =>
      rw [hs] at he
      cases he
      exact attemptFrom_stop h hr hs
    | none =>
      rw [hs] at he
      cases left with
      | zero =>
        cases he
        exact attemptFrom_giveUp h hr hs
      | succ left => cases he

/-- An attempt before the last one. -/
theorem attemptFrom_of_not_ending (h : op.exec m = (r, m'))
    (he : p.ending attempt (left + 1) r = none) :
    attemptFrom p op attempt delay (left + 1) m =
      attemptFrom p op (attempt + 1) (p.nextDelay delay) left
        ((m'.noting [waitRecord attempt r delay]).resting delay) := by
  unfold ending at he
  cases hr : isSuccess r with
  | true =>
    rw [if_pos hr] at he
    cases he
  | false =>
    rw [hr, if_neg (by decide)] at he
    cases hs : p.stopCondition (visibleOutput r) with
    | some stop' =>
      rw [hs] at he
      cases he
    | none => exact attemptFrom_again h hr hs

/-! ## All attempts -/

/-- The attempts from one on, with `left` more permitted after it: where they begin, how they end and
where. -/
inductive Tries (p : RetryPolicy) (op : Run ρ CommandOutput) :
    Nat → Nat → Duration → Machine ρ → RetryOutcome → Machine ρ → Prop
  | last {left attempt : Nat} {delay : Duration} {m m' : Machine ρ} {r : Attempted} {stop : StopReason}
      {records : List Record} :
      op.exec m = (r, m') → p.ending attempt left r = some (stop, records) →
      Tries p op left attempt delay m ⟨r, attempt, stop⟩ (m'.noting records)
  | again {left attempt : Nat} {delay : Duration} {m m' n : Machine ρ} {r : Attempted}
      {o : RetryOutcome} :
      op.exec m = (r, m') → p.ending attempt (left + 1) r = none →
      Tries p op left (attempt + 1) (p.nextDelay delay)
        ((m'.noting [waitRecord attempt r delay]).resting delay) o n →
      Tries p op (left + 1) attempt delay m o n

theorem tries_of_ending (h : op.exec m = (r, m'))
    (he : p.ending attempt left r = some (stop, records)) :
    Tries p op left attempt delay m (attemptFrom p op attempt delay left m).1
      (attemptFrom p op attempt delay left m).2 := by
  rw [attemptFrom_of_ending h he]
  exact .last h he

/-- Attempts are made and end. -/
theorem tries_attemptFrom (p : RetryPolicy) (op : Run ρ CommandOutput) (left attempt : Nat)
    (delay : Duration) (m : Machine ρ) :
    Tries p op left attempt delay m (attemptFrom p op attempt delay left m).1
      (attemptFrom p op attempt delay left m).2 := by
  induction left generalizing attempt delay m with
  | zero =>
    cases hcall : op.exec m with
    | mk r m' =>
      cases he : p.ending attempt 0 r with
      | some e => exact tries_of_ending hcall he
      | none => exact absurd rfl (not_ends_of_ending he).2
  | succ left ih =>
    cases hcall : op.exec m with
    | mk r m' =>
      cases he : p.ending attempt (left + 1) r with
      | some e => exact tries_of_ending hcall he
      | none =>
        rw [attemptFrom_of_not_ending hcall he]
        exact .again hcall he (ih _ _ _)

/-- **The loop and its derivations.** -/
theorem tries_iff {o : RetryOutcome} :
    Tries p op left attempt delay m o m' ↔ attemptFrom p op attempt delay left m = (o, m') := by
  constructor
  · intro h
    induction h with
    | last hcall he => exact attemptFrom_of_ending hcall he
    | again hcall he _ ih => exact (attemptFrom_of_not_ending hcall he).trans ih
  · intro h
    have htries := tries_attemptFrom p op left attempt delay m
    rwa [h] at htries

/-! ## The whole run -/

/-- The record with which an enabled policy begins. -/
def startRecord (p : RetryPolicy) : Record :=
  ⟨.debug, .retry,
    s!"Running with max attempts {p.maxAttempts.count}, {p.baseDelay.text} base delay, " ++
      s!"{p.factor.twoDecimals} delay factor"⟩

theorem run_of_enabled (h : p.enabled = true) (m : Machine ρ) :
    p.run op m =
      attemptFrom p op 1 p.baseDelay (p.maxAttempts.count - 1) (m.noting [p.startRecord]) := by
  unfold run
  rw [if_pos h]
  rfl

theorem run_of_not_enabled (h : p.enabled = false) (ho : op.exec m = (r, m')) :
    p.run op m =
      (⟨r, 1, if isSuccess r = true then .succeeded else .attemptsExhausted⟩, m') := by
  unfold run
  rw [if_neg (by rw [h]; decide)]
  simp only [bind, StateT.bind, show ExceptT.run op m = (r, m') from ho]
  rfl

end RetryPolicy

end Checkout
