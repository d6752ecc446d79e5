import Checkout.Retry.Policy

/-!
# Policies that can be built

A policy is made from a preset by a list of steps, applied in order. A number of attempts is a word
of 32 bits. A step that gives a pattern which is no regular expression fails, and there is no policy.

Results:
* `build_maxAttempts`: a policy permits at least one attempt, and their number fits into 32 bits;
* `build_enabled_iff`: a policy is enabled iff no step disabled it, wherever that step stood;
* `build_stopExitCodes`, `build_stopPatterns`: a policy stops at the exit codes and at the patterns that
  the steps gave, in the order of the steps, and at no others;
* `build_contains`: a text to stop at is among the patterns.
-/

namespace Checkout.RetryPolicy

/-- Where building starts. A new policy is the default one. -/
inductive Preset where
  | default
  | imageRegistry

/-- The policy of a preset. -/
def Preset.policy : Preset → RetryPolicy
  | .default => .default
  | .imageRegistry => .imageRegistry

/-- One step of building. -/
inductive BuildStep where
  | disabled
  | baseDelay (d : Duration)
  | delayFactor (x : Number.Double)
  | constantDelay (d : Duration)
  | maxAttempts (n : UInt32)
  | maxDelay (d : Duration)
  | stopOnExitCodes (codes : List Int)
  | stopIfOutputMatches (source : String)
  | stopIfOutputContains (text : String)

/-- The policy after one step. -/
def BuildStep.apply (p : RetryPolicy) : BuildStep → Except Error RetryPolicy
  | .disabled => .ok p.disabled
  | .baseDelay d => .ok (p.withBaseDelay d)
  | .delayFactor x => .ok (p.withDelayFactor x)
  | .constantDelay d => .ok (p.withConstantDelay d)
  | .maxAttempts n => .ok (p.withMaxAttempts n.toNat)
  | .maxDelay d => .ok (p.withMaxDelay d)
  | .stopOnExitCodes codes => .ok (p.stopOnExitCodes codes)
  | .stopIfOutputMatches source => p.stopIfOutputMatches source
  | .stopIfOutputContains text => .ok (p.stopIfOutputContains text)

/-- The exit codes to stop at that a step gives. -/
def BuildStep.exitCodes : BuildStep → List Int
  | .stopOnExitCodes codes => codes
  | _ => []

/-- The pattern to stop at that a step gives. -/
def BuildStep.stopPattern? : BuildStep → Option StopPattern
  | .stopIfOutputMatches source => (Regex.ofText? source).map (.pattern source)
  | .stopIfOutputContains text => some (.contains (Text.toLower text))
  | _ => none

/-- The policy after some steps. -/
def applyAll (p : RetryPolicy) : List BuildStep → Except Error RetryPolicy
  | [] => .ok p
  | s :: rest => (s.apply p).bind (applyAll · rest)

/-- The policy that a preset and some steps make. -/
def build (start : Preset) (steps : List BuildStep) : Except Error RetryPolicy :=
  applyAll start.policy steps

/-! ## What one step does -/

variable {p q : RetryPolicy} {s : BuildStep} {steps : List BuildStep} {start : Preset}

theorem stopIfOutputMatches_eq {source : String} (h : p.stopIfOutputMatches source = .ok q) :
    ∃ r, Regex.ofText? source = some r ∧ q = p.stopOn (.pattern source r) := by
  unfold stopIfOutputMatches at h
  cases hr : Regex.ofText? source with
  | none => rw [hr] at h; exact absurd h (by simp)
  | some r =>
    rw [hr] at h
    exact ⟨r, rfl, (Except.ok.inj h).symm⟩

theorem apply_maxAttempts (h : s.apply p = .ok q) (hp : p.maxAttempts.count < UInt32.size) :
    q.maxAttempts.count < UInt32.size := by
  cases s with
  | maxAttempts n =>
    cases h
    exact Nat.max_lt.mpr ⟨n.toNat_lt_size, by decide⟩
  | stopIfOutputMatches source =>
    obtain ⟨r, -, rfl⟩ := stopIfOutputMatches_eq h
    exact hp
  | _ => cases h; exact hp

theorem apply_enabled_iff (h : s.apply p = .ok q) :
    q.enabled = true ↔ p.enabled = true ∧ s ≠ .disabled := by
  cases s with
  | disabled => cases h; simp [disabled]
  | stopIfOutputMatches source =>
    obtain ⟨r, -, rfl⟩ := stopIfOutputMatches_eq h
    simp [stopOn]
  | _ =>
    cases h
    simp [withBaseDelay, withDelayFactor, withConstantDelay, withMaxAttempts, withMaxDelay,
      RetryPolicy.stopOnExitCodes, RetryPolicy.stopIfOutputContains, stopOn]

/-- A step puts its exit codes behind those there are. -/
theorem apply_stopExitCodes (h : s.apply p = .ok q) :
    q.stopExitCodes = p.stopExitCodes ++ s.exitCodes := by
  cases s with
  | stopOnExitCodes codes => cases h; rfl
  | stopIfOutputMatches source =>
    obtain ⟨r, -, rfl⟩ := stopIfOutputMatches_eq h
    exact (List.append_nil _).symm
  | _ => cases h; exact (List.append_nil _).symm

/-- A step puts its pattern behind those there are. -/
theorem apply_stopPatterns (h : s.apply p = .ok q) :
    q.stopPatterns = p.stopPatterns ++ s.stopPattern?.toList := by
  cases s with
  | stopIfOutputMatches source =>
    obtain ⟨r, hr, rfl⟩ := stopIfOutputMatches_eq h
    simp [BuildStep.stopPattern?, hr, stopOn]
  | stopIfOutputContains text => cases h; rfl
  | _ => cases h; exact (List.append_nil _).symm

/-! ## What all steps do -/

theorem applyAll_cons_ok (h : applyAll p (s :: steps) = .ok q) :
    ∃ r, s.apply p = .ok r ∧ applyAll r steps = .ok q := by
  unfold applyAll at h
  cases hs : s.apply p with
  | error e => rw [hs] at h; exact absurd h (by simp [Except.bind])
  | ok r => rw [hs] at h; exact ⟨r, rfl, h⟩

theorem applyAll_maxAttempts (h : applyAll p steps = .ok q) (hp : p.maxAttempts.count < UInt32.size) :
    q.maxAttempts.count < UInt32.size := by
  induction steps generalizing p with
  | nil => cases h; exact hp
  | cons s rest ih =>
    obtain ⟨r, hr, hrest⟩ := applyAll_cons_ok h
    exact ih hrest (apply_maxAttempts hr hp)

theorem applyAll_enabled_iff (h : applyAll p steps = .ok q) :
    q.enabled = true ↔ p.enabled = true ∧ .disabled ∉ steps := by
  induction steps generalizing p with
  | nil => cases h; simp
  | cons s rest ih =>
    obtain ⟨r, hr, hrest⟩ := applyAll_cons_ok h
    rw [ih hrest, apply_enabled_iff hr, List.mem_cons, not_or, and_assoc]
    exact and_congr_right fun _ => and_congr_left fun _ => ne_comm

theorem applyAll_stopExitCodes (h : applyAll p steps = .ok q) :
    q.stopExitCodes = p.stopExitCodes ++ steps.flatMap BuildStep.exitCodes := by
  induction steps generalizing p with
  | nil => cases h; exact (List.append_nil _).symm
  | cons s rest ih =>
    obtain ⟨r, hr, hrest⟩ := applyAll_cons_ok h
    rw [ih hrest, apply_stopExitCodes hr, List.flatMap_cons, List.append_assoc]

theorem applyAll_stopPatterns (h : applyAll p steps = .ok q) :
    q.stopPatterns = p.stopPatterns ++ steps.filterMap BuildStep.stopPattern? := by
  induction steps generalizing p with
  | nil => cases h; exact (List.append_nil _).symm
  | cons s rest ih =>
    obtain ⟨r, hr, hrest⟩ := applyAll_cons_ok h
    rw [ih hrest, apply_stopPatterns hr, List.append_assoc]
    cases hs : s.stopPattern? <;> simp [hs]

/-- **The exit codes at which a policy stops** are those of its steps, in their order. -/
theorem build_stopExitCodes (h : build start steps = .ok p) :
    p.stopExitCodes = steps.flatMap BuildStep.exitCodes := by
  have hstart : start.policy.stopExitCodes = [] := by cases start <;> rfl
  rw [applyAll_stopExitCodes h, hstart, List.nil_append]

/-- **The patterns at which a policy stops** are those of its steps, in their order. -/
theorem build_stopPatterns (h : build start steps = .ok p) :
    p.stopPatterns = steps.filterMap BuildStep.stopPattern? := by
  have hstart : start.policy.stopPatterns = [] := by cases start <;> rfl
  rw [applyAll_stopPatterns h, hstart, List.nil_append]

/-- **A text to stop at** is among the patterns in lower case, whatever steps came before or after. -/
theorem build_contains {text : String} (h : build start steps = .ok p)
    (htext : .stopIfOutputContains text ∈ steps) : .contains (Text.toLower text) ∈ p.stopPatterns := by
  rw [build_stopPatterns h]
  exact List.mem_filterMap.mpr ⟨_, htext, rfl⟩

/-- **A policy permits at least one attempt**, and their number fits into a word of 32 bits. -/
theorem build_maxAttempts (h : build start steps = .ok p) :
    1 ≤ p.maxAttempts.count ∧ p.maxAttempts.count < UInt32.size := by
  refine ⟨p.maxAttempts.one_le_count, applyAll_maxAttempts h ?_⟩
  cases start <;> decide

/-- **A policy is enabled iff no step disabled it**, whatever steps came before or after. -/
theorem build_enabled_iff (h : build start steps = .ok p) :
    p.enabled = true ↔ .disabled ∉ steps := by
  have hstart : start.policy.enabled = true := by cases start <;> rfl
  rw [applyAll_enabled_iff h]
  exact and_iff_right hstart

end Checkout.RetryPolicy
