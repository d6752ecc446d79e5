import Checkout.Clone.Run
import Checkout.Proofs.Clone.Plan
import Checkout.Proofs.Symlink.Survey

/-!
# Runs that carry out a plan

`Carries` ties a run to a plan: if the run ends with a value, it has carried out the plan to its end,
and if it fails, it has stopped at an item that failed. Records in the log are no items, so runs that
only write to the log carry out nothing, and runs one after another carry out plans one after another.

Results:
* `carries_bind`: the simulation is composed of the simulations of its parts;
* `carries_fetch`, `carries_call`, `carries_read`, `carries_audit`: the parts.
-/

namespace Checkout

/-- A run carries out a plan, starting with a head that is kept. `post` relates the value of the run and
the head that is kept at its end. -/
structure Carries {α : Type} (ctx : RepoContext) (attempts : Nat) (x : Run Script α) (kept : String)
    (plan : List PlanItem) (post : α → String → Prop) : Prop where
  ok : ∀ {m m' : Machine Script} {a : α}, x.exec m = (.ok a, m') →
    ∃ calls next, Executes ctx attempts kept plan m.silent calls (some next) m'.silent ∧ post a next
  error : ∀ {m m' : Machine Script} {e : Error}, x.exec m = (.error e, m') →
    ∃ calls, Executes ctx attempts kept plan m.silent calls none m'.silent

/-- The head that is kept has not changed. -/
abbrev Keeps (α : Type) (kept : String) : α → String → Prop := fun _ next => next = kept

variable {α β : Type} {ctx : RepoContext} {attempts : Nat} {kept : String} {p q : List PlanItem}
  {item : PlanItem} {x : Run Script α} {f : α → Run Script β} {post : α → String → Prop}
  {post' : β → String → Prop}

/-! ## Composition -/

theorem carries_pure {a : α} (h : post a kept) : Carries ctx attempts (pure a) kept [] post where
  ok := fun {m m' b} he => by
    cases he
    exact ⟨[], kept, .done kept _, h⟩
  error := fun he => by cases he

/-- **Runs one after another carry out plans one after another.** -/
theorem carries_bind (hx : Carries ctx attempts x kept p post)
    (hf : ∀ a next, post a next → Carries ctx attempts (f a) next q post') :
    Carries ctx attempts (x >>= f) kept (p ++ q) post' where
  ok := fun he => by
    obtain ⟨a, m₁, ha, hb⟩ := Run.exec_bind_eq_ok he
    obtain ⟨calls, next, hcalls, hpost⟩ := hx.ok ha
    obtain ⟨more, final, hmore, hpost'⟩ := (hf a next hpost).ok hb
    exact ⟨calls ++ more, final, hcalls.append hmore, hpost'⟩
  error := fun he => by
    rcases Run.exec_bind_eq_error he with ha | ⟨a, m₁, ha, hb⟩
    · obtain ⟨calls, hcalls⟩ := hx.error ha
      exact ⟨calls, hcalls.stop q⟩
    · obtain ⟨calls, next, hcalls, hpost⟩ := hx.ok ha
      obtain ⟨more, hmore⟩ := (hf a next hpost).error hb
      exact ⟨calls ++ more, hcalls.append hmore⟩

/-- A run that carries out nothing goes before one that carries out a plan. -/
theorem carries_skip (hx : Carries ctx attempts x kept [] (Keeps α kept))
    (hf : ∀ a, Carries ctx attempts (f a) kept q post') :
    Carries ctx attempts (x >>= f) kept q post' := by
  have h := carries_bind hx fun a next (hn : next = kept) => hn ▸ hf a
  rwa [List.nil_append] at h

/-- A run goes after the last item of its plan. -/
theorem carries_after (hx : Carries ctx attempts x kept p post)
    (hf : ∀ a next, post a next → Carries ctx attempts (f a) next [] post') :
    Carries ctx attempts (x >>= f) kept p post' := by
  have h := carries_bind hx hf
  rwa [List.append_nil] at h

/-- A run that carries out one item goes before one that carries out the rest. -/
theorem carries_cons (hx : Carries ctx attempts x kept [item] (Keeps α kept))
    (hf : ∀ a, Carries ctx attempts (f a) kept q post') :
    Carries ctx attempts (x >>= f) kept (item :: q) post' :=
  carries_bind hx fun a next (hn : next = kept) => hn ▸ hf a

/-- A part of a run that depends on the request, before the rest of the run. -/
theorem carries_when {c : Prop} [Decidable c] {x : Run Script Unit} {y : Unit → Run Script β}
    (hx : c → Carries ctx attempts x kept p (Keeps Unit kept))
    (hy : Carries ctx attempts (y ()) kept q post') :
    Carries ctx attempts (if c then x >>= y else y ()) kept ((if c then p else []) ++ q) post' := by
  by_cases hc : c
  · rw [if_pos hc, if_pos hc]
    exact carries_bind (hx hc) fun _ next (hn : next = kept) => hn ▸ hy
  · rw [if_neg hc, if_neg hc]
    exact hy

theorem carries_mono {post₁ : α → String → Prop} (hx : Carries ctx attempts x kept p post)
    (h : ∀ a next, post a next → post₁ a next) : Carries ctx attempts x kept p post₁ where
  ok := fun he => by
    obtain ⟨calls, next, hcalls, hpost⟩ := hx.ok he
    exact ⟨calls, next, hcalls, h _ _ hpost⟩
  error := hx.error

theorem carries_write (level : Level) (part : Part) (message : String) :
    Carries ctx attempts (write level part message) kept [] (Keeps Unit kept) where
  ok := fun he => by
    cases he
    exact ⟨[], kept, .done kept _, rfl⟩
  error := fun he => by cases he

/-! ## Commands -/

theorem exec_once (operation : String) (args : List String) (m : Machine Script) :
    (Git.once Script.runner ctx operation args).exec m =
      ((m.repo.reply (Git.command ctx args)).bind (Git.checked ctx operation),
        m.answered (Git.command ctx args)) := by
  rw [Git.once, Run.exec_bind, exec_runner]
  cases m.repo.reply (Git.command ctx args) <;> rfl

theorem checked_eq_ok {operation : String} {answer : Attempted} {out : CommandOutput}
    (h : answer.bind (Git.checked ctx operation) = .ok out) :
    answer = .ok out ∧ out.exitCode = 0 := by
  cases answer with
  | error e => exact absurd h (by simp [Except.bind])
  | ok o =>
    unfold Except.bind Git.checked at h
    by_cases ho : o.isSuccess = true
    · simp only [ho, if_true] at h
      cases h
      exact ⟨rfl, CommandOutput.isSuccess_eq_true.mp ho⟩
    · simp only [ho, Bool.false_eq_true, if_false] at h
      exact absurd h (by simp)

theorem checked_eq_error {operation : String} {answer : Attempted} {e : Error}
    (h : answer.bind (Git.checked ctx operation) = .error e) : ¬ Succeeded answer := by
  intro hs
  cases answer with
  | error e => exact hs
  | ok o =>
    have ho : o.isSuccess = true := CommandOutput.isSuccess_eq_true.mpr hs
    simp [Except.bind, Git.checked, ho] at h

/-- **A command that is made once** carries out an item with its arguments. -/
theorem carries_once (item : PlanItem) {args : List String} (operation : String)
    (hargs : item.args? kept = some args) (hone : 1 ≤ item.most attempts) :
    Carries ctx attempts (Git.once Script.runner ctx operation args) kept [item]
      fun out next => next = item.keep kept out where
  ok := fun {m m' out} he => by
    rw [exec_once] at he
    injection he with hanswer hm
    subst hm
    obtain ⟨hans, hout⟩ := checked_eq_ok hanswer
    have hr : Repeated (Git.command ctx args) 1 m.silent (.ok out)
        (m.silent.answered (Git.command ctx args)) := by
      rw [← hans]
      exact .once m.silent
    exact ⟨_, _, .command hargs hone hr hout (.done _ _), rfl⟩
  error := fun {m m' e} he => by
    rw [exec_once] at he
    injection he with hanswer hm
    subst hm
    exact ⟨_, .commandFails hargs hone (.once m.silent) (checked_eq_error hanswer)⟩

/-- A command whose output does not matter. -/
theorem carries_call (operation : String) (args : List String) :
    Carries ctx attempts (Git.effect Script.runner ctx operation args) kept [.call args]
      (Keeps Unit kept) :=
  carries_after (carries_once (.call args) operation rfl (Nat.le_refl 1)) fun _ _ h => carries_pure h

/-- A command for its output. -/
theorem carries_read (item : PlanItem) {args : List String} (operation : String)
    (hargs : item.args? kept = some args) (hone : 1 ≤ item.most attempts) :
    Carries ctx attempts (Git.output Script.runner ctx operation args) kept [item]
      fun text next => ∃ out : CommandOutput, text = Text.trim out.stdout ∧ next = item.keep kept out :=
  carries_after (carries_once item operation hargs hone) fun out _ h => carries_pure ⟨out, rfl, h⟩

/-- A command for its output that leaves the head as it is kept. -/
theorem carries_output (operation : String) (args : List String) :
    Carries ctx attempts (Git.output Script.runner ctx operation args) kept [.call args]
      (Keeps String kept) :=
  carries_mono (carries_read (.call args) operation rfl (Nat.le_refl 1)) fun _ _ ⟨_, _, h⟩ => h

/-! ## Fetches -/

theorem output_eq_ok {o : RetryOutcome} {operation : String} {out : CommandOutput}
    (h : o.output operation = .ok out) : o.result = .ok out ∧ out.exitCode = 0 := by
  unfold RetryOutcome.output at h
  cases hr : o.result with
  | error e => rw [hr] at h; exact absurd h (by simp)
  | ok out' =>
    rw [hr] at h
    by_cases ho : out'.isSuccess = true
    · simp only [ho, if_true] at h
      cases h
      exact ⟨rfl, CommandOutput.isSuccess_eq_true.mp ho⟩
    · simp only [ho, Bool.false_eq_true, if_false] at h
      exact absurd h (by simp)

theorem output_eq_error {o : RetryOutcome} {operation : String} {e : Error}
    (h : o.output operation = .error e) : ¬ Succeeded o.result := by
  intro hs
  unfold RetryOutcome.output at h
  cases hr : o.result with
  | error e => rw [hr] at hs; exact hs
  | ok out =>
    rw [hr] at hs h
    have ho : out.isSuccess = true := CommandOutput.isSuccess_eq_true.mpr hs
    simp [ho] at h

/-- A fetch under the policy that it makes its own. -/
def fetchRun (policy : RetryPolicy) (ctx : RepoContext) (spec : FetchSpec) :
    StateM (Machine Script) RetryOutcome :=
  (policy.withMaxAttempts spec.maxAttempts.count).run
    (Script.runner (Git.command ctx (Git.fetchArgs spec)))

theorem exec_fetch (policy : RetryPolicy) (spec : FetchSpec) (m : Machine Script) :
    (Git.fetch Script.runner policy ctx spec).exec m =
      (((fetchRun policy ctx spec m).1.output "git fetch").map fun _ => (),
        (fetchRun policy ctx spec m).2) := by
  rw [Git.fetch, Run.exec_bind, Run.exec_lift]
  simp only [Run.exec_bind, Run.exec_ofExcept, fetchRun]
  cases RetryOutcome.output _ _ <;> rfl

theorem fetchRun_repeated (policy : RetryPolicy) (spec : FetchSpec) (m : Machine Script) :
    ∃ k, k ≤ spec.maxAttempts.count ∧
      Repeated (Git.command ctx (Git.fetchArgs spec)) k m.silent (fetchRun policy ctx spec m).1.result
        (fetchRun policy ctx spec m).2.silent := by
  obtain ⟨k, -, hk, -, hr⟩ := RetryPolicy.run_repeated
    (policy.withMaxAttempts spec.maxAttempts.count) (Git.command ctx (Git.fetchArgs spec)) m
  have hone := spec.maxAttempts.one_le_count
  simp only [RetryPolicy.withMaxAttempts, Attempts.count_ofNat] at hk
  exact ⟨k, by omega, hr⟩

/-- **A fetch is repeated** at most as often as it asks for, whatever the policy. -/
theorem carries_fetch (policy : RetryPolicy) {spec : FetchSpec}
    (hmost : spec.maxAttempts.count ≤ attempts) :
    Carries ctx attempts (Git.fetch Script.runner policy ctx spec) kept
      [.fetch (Git.fetchArgs spec)] (Keeps Unit kept) := by
  have hargs : (PlanItem.fetch (Git.fetchArgs spec)).args? kept = some (Git.fetchArgs spec) := rfl
  refine ⟨fun {m m' a} he => ?_, fun {m m' e} he => ?_⟩
  · obtain ⟨k, hk, hr⟩ := fetchRun_repeated policy spec m
    rw [exec_fetch] at he
    injection he with hmap hm
    subst hm
    cases ho : (fetchRun policy ctx spec m).1.output "git fetch" with
    | error e => rw [ho] at hmap; exact absurd hmap (by simp [Except.map])
    | ok out =>
      obtain ⟨hres, hzero⟩ := output_eq_ok ho
      rw [hres] at hr
      exact ⟨_, _, .command hargs (Nat.le_trans hk hmost) hr hzero (.done _ _), rfl⟩
  · obtain ⟨k, hk, hr⟩ := fetchRun_repeated policy spec m
    rw [exec_fetch] at he
    injection he with hmap hm
    subst hm
    cases ho : (fetchRun policy ctx spec m).1.output "git fetch" with
    | error e => exact ⟨_, .commandFails hargs (Nat.le_trans hk hmost) hr (output_eq_error ho)⟩
    | ok out => rw [ho] at hmap; exact absurd hmap (by simp [Except.map])

/-! ## The audit -/

theorem audit_outcome_silent (path : ByteString) (m : Machine Script) :
    ((SymlinkAudit.audit path).exec m.silent).1 = ((SymlinkAudit.audit path).exec m).1 := by
  rw [SymlinkAudit.exec_audit, SymlinkAudit.exec_audit]
  rfl

theorem audit_silent {path : ByteString} {m m' : Machine Script} {outcome : Except Error Unit}
    (h : (SymlinkAudit.audit path).exec m = (outcome, m')) : m'.silent = m.silent := by
  rw [SymlinkAudit.exec_audit] at h
  cases h
  rfl

theorem carries_audit :
    Carries ctx attempts (SymlinkAudit.audit ctx.dir) kept [.audit] (Keeps Unit kept) where
  ok := fun {m m' a} he => by
    have h := audit_outcome_silent ctx.dir m
    rw [he] at h
    rw [audit_silent he]
    exact ⟨[], kept, .audit h (.done kept _), rfl⟩
  error := fun {m m' e} he => by
    have h := audit_outcome_silent ctx.dir m
    rw [he] at h
    rw [audit_silent he]
    exact ⟨[], .auditFails h⟩

end Checkout
