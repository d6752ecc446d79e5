import Checkout.Proofs.Clone.Transcript

/-!
# What an operation reports

Every operation of the client needs one invocation of git or two, and it reports how they went: with a
value if all of them succeeded, and else with the error of the first one that did not. `Reports` are the
derivations of that, invocation by invocation. Only a fetch repeats its invocation, and it reports the last
attempt.

Results:
* `accounts_bind`: the reports of two runs make up the report of both, one after the other;
* `report_carryOut`: what any operation reports, with any arguments and under any policy.
-/

namespace Checkout

open Text (trim)

/-- An invocation of git: its name in errors and its arguments. -/
structure Invocation where
  name : String
  args : List String
  deriving DecidableEq, Repr

/-- An operation of a repository client with its arguments, by what it gives. -/
inductive Operation : Type → Type
  | init : Operation Unit
  | remoteAdd (name url : String) : Operation String
  | setSparseCheckout (dirs : List String) : Operation Unit
  | fetch (spec : FetchSpec) : Operation Unit
  | checkout (reference : String) : Operation Unit
  | submoduleUpdate (withInit : Bool) (depth : Nat) (paths : List String) : Operation Unit
  | configLocal (key value : String) : Operation Unit
  | revParse (reference : String) (short : Option Nat) : Operation String
  | log (format : String) (count : Nat) : Operation String
  | commit (branch remote sha : String) : Operation String
  | merge (reference : String) : Operation String
  | fetchTags : Operation (List String)

namespace Operation

variable {α ρ : Type}

/-- Carries out the operation with a client. -/
def carryOut (client : RepositoryClient ρ) (ctx : RepoContext) : Operation α → Run ρ α
  | .init => client.init ctx
  | .remoteAdd name url => client.remoteAdd ctx name url
  | .setSparseCheckout dirs => client.setSparseCheckout ctx dirs
  | .fetch spec => client.fetch ctx spec
  | .checkout reference => client.checkout ctx reference
  | .submoduleUpdate withInit depth paths => client.submoduleUpdate ctx withInit depth paths
  | .configLocal key value => client.configLocal ctx key value
  | .revParse reference short => client.revParse ctx reference short
  | .log format count => client.log ctx format count
  | .commit branch remote sha => client.commit ctx branch remote sha
  | .merge reference => client.merge ctx reference
  | .fetchTags => client.fetchTags ctx

/-- The invocations that the operation needs, in order. -/
def needs : Operation α → List Invocation
  | .init => [⟨"git init", ["init"]⟩]
  | .remoteAdd name url => [⟨"git remote add", ["remote", "add", name, url]⟩]
  | .setSparseCheckout dirs =>
    [⟨"git config", ["config", "--local", "core.sparseCheckout", "true"]⟩,
      ⟨"git sparse-checkout set", ["sparse-checkout", "set"] ++ dirs⟩]
  | .fetch spec => [⟨"git fetch", Git.fetchArgs spec⟩]
  | .checkout reference => [⟨"git checkout", ["checkout", reference]⟩]
  | .submoduleUpdate withInit depth paths =>
    [⟨"git submodule update", Git.submoduleArgs withInit depth paths⟩]
  | .configLocal key value => [⟨"git config", ["config", "--local", key, value]⟩]
  | .revParse reference short => [⟨"git rev-parse", Git.revParseArgs reference short⟩]
  | .log format count => [⟨"git log", Git.logArgs format count⟩]
  | .commit branch remote sha =>
    [⟨"git commit", ["commit", "-m", Git.mergeMessage branch remote sha]⟩]
  | .merge reference => [⟨"git merge", Git.mergeArgs reference⟩]
  | .fetchTags => [⟨"git fetch --tags", ["fetch", "--tags"]⟩, ⟨"git tag -l", ["tag", "-l"]⟩]

end Operation

variable {α β : Type} {ctx : RepoContext} {needed more : List Invocation} {t t' : List Exchange}

/-! ## One invocation after another -/

/-- The error of an invocation that did not succeed: its own if it could not be started. -/
def Invocation.failure (i : Invocation) (ctx : RepoContext) : Attempted → Error
  | .ok out => .commandFailed i.name ctx.dir out.exitCode (trim out.stderr)
  | .error e => e

/-- Invocations went one after another. An invocation that succeeded was followed by the next one that is
needed; one that did not was the last one, and its error is the outcome. -/
inductive Reports (ctx : RepoContext) : List Invocation → List Exchange → Except Error α → Prop
  | finished (a : α) : Reports ctx [] [] (.ok a)
  | next {i : Invocation} {needed : List Invocation} {e : Exchange} {t : List Exchange}
      {outcome : Except Error α} :
      e.command = Git.command ctx i.args → Succeeded e.answer → Reports ctx needed t outcome →
      Reports ctx (i :: needed) (e :: t) outcome
  | broken {i : Invocation} {needed : List Invocation} {e : Exchange} :
      e.command = Git.command ctx i.args → ¬ Succeeded e.answer →
      Reports ctx (i :: needed) [e] (.error (i.failure ctx e.answer))

namespace Reports

theorem append {a : α} {outcome : Except Error β} (h : Reports ctx needed t (.ok a))
    (h' : Reports ctx more t' outcome) : Reports ctx (needed ++ more) (t ++ t') outcome := by
  generalize ho : Except.ok a = o at h
  induction h with
  | finished a => exact h'
  | next hc hs _ ih => exact .next hc hs (ih ho)
  | broken hc hs => cases ho

/-- Nothing follows an error. -/
theorem stop {err : Error} (h : Reports ctx needed t (.error err : Except Error α))
    (more : List Invocation) : Reports ctx (needed ++ more) t (.error err : Except Error β) := by
  generalize ho : (Except.error err : Except Error α) = o at h
  induction h with
  | finished a => cases ho
  | next hc hs _ ih => exact .next hc hs (ih ho)
  | broken hc hs =>
    cases ho
    exact .broken hc hs

end Reports

/-- What the report of an operation says of the invocations that it needs, when none is repeated. -/
structure Report (ctx : RepoContext) (needed : List Invocation) (t : List Exchange)
    (outcome : Except Error α) : Prop where
  /-- Nothing else was asked, and nothing out of order. -/
  commands : t.map Exchange.command <+: needed.map fun i => Git.command ctx i.args
  /-- An invocation was made only after all that were made before it had succeeded. -/
  after_success : ∀ front e back, t = front ++ e :: back → ∀ x ∈ front, Succeeded x.answer
  ok_iff : (∃ a, outcome = .ok a) ↔ t.length = needed.length ∧ ∀ e ∈ t, Succeeded e.answer
  /-- The error of an invocation that could not be started is the outcome. -/
  not_started : ∀ e ∈ t, ∀ err, e.answer = .error err → outcome = .error err
  /-- So is the failure of one that ended with another exit code than zero. -/
  failed : ∀ i e out, (i, e) ∈ needed.zip t → e.answer = .ok out → out.exitCode ≠ 0 →
    outcome = .error (.commandFailed i.name ctx.dir out.exitCode (trim out.stderr))

theorem Reports.report {outcome : Except Error α} (h : Reports ctx needed t outcome) :
    Report ctx needed t outcome := by
  induction h with
  | finished a =>
    refine ⟨List.nil_prefix, ?_, ?_, ?_, ?_⟩
    · intro front e back ht
      simp at ht
    · simp
    · intro e he
      cases he
    · intro i e out hmem
      simp at hmem
  | @next i needed e t outcome hc hs _ ih =>
    refine ⟨?_, ?_, ?_, ?_, ?_⟩
    · rw [List.map_cons, List.map_cons, hc]
      exact (List.prefix_cons_inj _).mpr ih.commands
    · intro front x back ht y hy
      cases front with
      | nil => cases hy
      | cons z front =>
        obtain ⟨rfl, htail⟩ := List.cons.inj ht
        rcases List.mem_cons.mp hy with rfl | hy
        · exact hs
        · exact ih.after_success front x back htail y hy
    · rw [ih.ok_iff, List.length_cons, List.length_cons, Nat.add_right_cancel_iff, List.forall_mem_cons]
      exact ⟨fun ⟨hlen, hall⟩ => ⟨hlen, hs, hall⟩, fun ⟨hlen, _, hall⟩ => ⟨hlen, hall⟩⟩
    · intro x hx err herr
      rcases List.mem_cons.mp hx with rfl | hx
      · rw [herr] at hs
        exact hs.elim
      · exact ih.not_started x hx err herr
    · intro j x out hmem hout hcode
      rw [List.zip_cons_cons] at hmem
      rcases List.mem_cons.mp hmem with heq | hmem
      · obtain ⟨rfl, rfl⟩ := Prod.mk.inj heq
        rw [hout] at hs
        exact absurd hs hcode
      · exact ih.failed j x out hmem hout hcode
  | @broken i needed e hc hs =>
    refine ⟨?_, ?_, ?_, ?_, ?_⟩
    · rw [List.map_cons, List.map_cons, hc]
      exact (List.prefix_cons_inj _).mpr List.nil_prefix
    · intro front x back ht y hy
      cases front with
      | nil => cases hy
      | cons z front =>
        obtain ⟨-, htail⟩ := List.cons.inj ht
        simp at htail
    · constructor
      · rintro ⟨a, ha⟩
        cases ha
      · rintro ⟨-, hall⟩
        exact absurd (hall e List.mem_cons_self) hs
    · intro x hx err herr
      obtain rfl := List.mem_singleton.mp hx
      rw [herr]
      rfl
    · intro j x out hmem hout hcode
      rw [List.zip_cons_cons, List.zip_nil_right, List.mem_singleton] at hmem
      obtain ⟨rfl, rfl⟩ := Prod.mk.inj hmem
      rw [hout]
      rfl

/-! ## Runs that report -/

/-- From every machine, a run reports on the invocations that it needs. -/
def Accounts (ctx : RepoContext) (needed : List Invocation) (x : Run Script α) : Prop :=
  ∀ m : Machine Script, ∃ calls, (x.exec m).2.repo = calls.foldl Script.after m.repo ∧
    Reports ctx needed (m.repo.exchanges calls) (x.exec m).1

theorem accounts_pure (a : α) : Accounts ctx [] (pure a : Run Script α) := fun _ =>
  ⟨[], rfl, .finished a⟩

theorem accounts_write (level : Level) (part : Part) (message : String) :
    Accounts ctx [] (write level part message) := fun _ =>
  ⟨[], rfl, .finished ()⟩

/-- **One run after another** reports on the invocations of both. -/
theorem accounts_bind {x : Run Script α} {f : α → Run Script β} (hx : Accounts ctx needed x)
    (hf : ∀ a, Accounts ctx more (f a)) : Accounts ctx (needed ++ more) (x >>= f) := by
  intro m
  obtain ⟨calls, hrepo, hreports⟩ := hx m
  cases hexec : x.exec m with
  | mk outcome m₁ =>
    rw [hexec] at hrepo hreports
    cases outcome with
    | error err =>
      rw [Run.exec_bind_error hexec]
      exact ⟨calls, hrepo, hreports.stop more⟩
    | ok a =>
      rw [Run.exec_bind_ok hexec]
      obtain ⟨calls', hrepo', hreports'⟩ := hf a m₁
      refine ⟨calls ++ calls', ?_, ?_⟩
      · rw [List.foldl_append, hrepo', hrepo]
      · rw [Script.exchanges_append]
        rw [hrepo] at hreports'
        exact hreports.append hreports'

/-- A run that needs nothing more goes after one that reports. -/
theorem accounts_after {x : Run Script α} {f : α → Run Script β} (hx : Accounts ctx needed x)
    (hf : ∀ a, Accounts ctx [] (f a)) : Accounts ctx needed (x >>= f) := by
  have h := accounts_bind hx hf
  rwa [List.append_nil] at h

theorem accounts_once (i : Invocation) :
    Accounts ctx [i] (Git.once Script.runner ctx i.name i.args) := by
  intro m
  refine ⟨[Git.command ctx i.args], ?_, ?_⟩
  · rw [exec_once]
    rfl
  · rw [exec_once]
    dsimp only [Script.exchanges]
    cases hanswer : m.repo.reply (Git.command ctx i.args) with
    | error err => exact .broken rfl (fun hs => hs)
    | ok out =>
      by_cases hs : out.isSuccess = true
      · simp only [Except.bind, Git.checked, hs, if_true]
        exact .next rfl (CommandOutput.isSuccess_eq_true.mp hs) (.finished out)
      · simp only [Except.bind, Git.checked, hs, Bool.false_eq_true, if_false]
        exact .broken rfl fun hzero => hs (CommandOutput.isSuccess_eq_true.mpr hzero)

theorem accounts_output (i : Invocation) :
    Accounts ctx [i] (Git.output Script.runner ctx i.name i.args) :=
  accounts_after (accounts_once i) fun out => accounts_pure (trim out.stdout)

theorem accounts_effect (i : Invocation) :
    Accounts ctx [i] (Git.effect Script.runner ctx i.name i.args) :=
  accounts_after (accounts_once i) fun _ => accounts_pure ()

theorem Accounts.report {x : Run Script α} (h : Accounts ctx needed x) (m : Machine Script) :
    Report ctx needed (transcript m (x.exec m).2) (x.exec m).1 := by
  obtain ⟨calls, hrepo, hreports⟩ := h m
  have hcalls : (x.exec m).2.repo.calls = m.repo.calls ++ calls := by
    rw [hrepo, Script.calls_foldl_after]
  rw [transcript_eq hcalls]
  exact hreports.report

/-! ## Fetches -/

/-- What the report of a fetch says of its attempts. -/
structure FetchReport (ctx : RepoContext) (spec : FetchSpec) (t : List Exchange)
    (outcome : Except Error α) : Prop where
  attempted : t ≠ []
  commands : ∀ e ∈ t, e.command = Git.command ctx (Git.fetchArgs spec)
  /-- An attempt was followed by another one only if it had not succeeded. -/
  earlier : ∀ e ∈ t.dropLast, ¬ Succeeded e.answer
  ok_iff : (∃ a, outcome = .ok a) ↔ ∃ e ∈ t.getLast?, Succeeded e.answer
  /-- If git could not be started for the last attempt, its error is the outcome. -/
  not_started : ∀ e ∈ t.getLast?, ∀ err, e.answer = .error err → outcome = .error err
  /-- If the last attempt ended with another exit code than zero, that is the outcome together with the
  number of attempts, whether or not git could be started for all of them. -/
  failed : ∀ e ∈ t.getLast?, ∀ out, e.answer = .ok out → out.exitCode ≠ 0 →
    outcome = .error (.retryExhausted "git fetch" t.length out.exitCode (trim out.stderr))

theorem output_not_started {o : RetryOutcome} {operation : String} {err : Error}
    (h : o.result = .error err) : o.output operation = .error err := by
  unfold RetryOutcome.output
  rw [h]

theorem output_failed {o : RetryOutcome} {operation : String} {out : CommandOutput}
    (h : o.result = .ok out) (hcode : out.exitCode ≠ 0) :
    o.output operation = .error (.retryExhausted operation o.attempts out.exitCode (trim out.stderr)) := by
  have hs : ¬ out.isSuccess = true := fun hs => hcode (CommandOutput.isSuccess_eq_true.mp hs)
  unfold RetryOutcome.output
  rw [h]
  exact if_neg hs

theorem output_ok_iff {o : RetryOutcome} {operation : String} :
    (∃ out, o.output operation = .ok out) ↔ Succeeded o.result := by
  constructor
  · rintro ⟨out, hout⟩
    obtain ⟨hresult, hzero⟩ := output_eq_ok hout
    rw [hresult]
    exact hzero
  · intro hs
    cases hout : o.output operation with
    | error err => exact absurd hs (output_eq_error hout)
    | ok out => exact ⟨out, rfl⟩

/-- **A fetch reports its last attempt**, whatever the policy. -/
theorem fetch_report (policy : RetryPolicy) (ctx : RepoContext) (spec : FetchSpec) (m : Machine Script) :
    FetchReport ctx spec (transcript m ((Git.fetch Script.runner policy ctx spec).exec m).2)
      ((Git.fetch Script.runner policy ctx spec).exec m).1 := by
  obtain ⟨k, -, -, hattempts, hrepeated⟩ := RetryPolicy.run_repeated
    (policy.withMaxAttempts spec.maxAttempts.count) (Git.command ctx (Git.fetchArgs spec)) m
  obtain ⟨failed, hexchanges, hlength, hfailed⟩ := hrepeated.exchanges
  have hcalls : (fetchRun policy ctx spec m).2.repo.calls =
      m.repo.calls ++ List.replicate k (Git.command ctx (Git.fetchArgs spec)) := hrepeated.calls
  have ht : transcript m (fetchRun policy ctx spec m).2 =
      failed ++ [⟨Git.command ctx (Git.fetchArgs spec), (fetchRun policy ctx spec m).1.result⟩] :=
    (transcript_eq hcalls).trans hexchanges
  have hcount : (fetchRun policy ctx spec m).1.attempts = failed.length + 1 := hattempts.trans hlength.symm
  rw [exec_fetch, ht]
  generalize (fetchRun policy ctx spec m).1 = o at hcount
  refine ⟨by simp, ?_, ?_, ?_, ?_, ?_⟩
  · intro e he
    rcases List.mem_append.mp he with he | he
    · exact (hfailed e he).1
    · rw [List.mem_singleton.mp he]
  · intro e he
    rw [List.dropLast_concat] at he
    exact (hfailed e he).2
  · have hok : (∃ a, (o.output "git fetch").map (fun _ => ()) = .ok a) ↔
        ∃ out, o.output "git fetch" = .ok out := by
      cases o.output "git fetch" <;> simp [Except.map]
    rw [hok, output_ok_iff, List.getLast?_concat]
    simp
  · intro e he err herr
    rw [List.getLast?_concat] at he
    obtain rfl := Option.mem_some_iff.mp he
    rw [output_not_started herr]
    rfl
  · intro e he out hout hcode
    rw [List.getLast?_concat] at he
    obtain rfl := Option.mem_some_iff.mp he
    rw [output_failed hout hcode, hcount, List.length_append, List.length_singleton]
    rfl

/-! ## All operations -/

/-- What an operation reports, by its kind: what it was asked and answered, and its outcome. -/
def Operation.Reported (ctx : RepoContext) : Operation α → List Exchange → Except Error α → Prop
  | .fetch spec => FetchReport ctx spec
  | .setSparseCheckout [] => fun t outcome =>
    t = [] ∧ outcome = .error (.validation "sparse checkout directories parameter empty")
  | op => Report ctx op.needs

theorem accounts_sparse {dirs : List String} (h : dirs ≠ []) :
    Accounts ctx (Operation.setSparseCheckout dirs).needs (Git.setSparseCheckout Script.runner ctx dirs) := by
  have hnot : ¬ dirs.isEmpty = true := by simpa using h
  unfold Git.setSparseCheckout
  rw [if_neg hnot]
  exact accounts_bind (accounts_write _ _ _) fun _ =>
    accounts_bind (accounts_effect ⟨"git config", ["config", "--local", "core.sparseCheckout", "true"]⟩)
      fun _ => accounts_effect ⟨"git sparse-checkout set", ["sparse-checkout", "set"] ++ dirs⟩

theorem accounts_fetchTags :
    Accounts ctx Operation.fetchTags.needs (Git.fetchTags Script.runner ctx) :=
  accounts_bind (accounts_effect ⟨"git fetch --tags", ["fetch", "--tags"]⟩) fun _ =>
    accounts_after (accounts_once ⟨"git tag -l", ["tag", "-l"]⟩) fun out =>
      accounts_pure (Git.outputLines out.stdout)

/-- **No failure of git is swallowed**, by any operation with any arguments, in any context, under any
policy and whatever git answers. -/
theorem report_carryOut (op : Operation α) (policy : RetryPolicy) (ctx : RepoContext)
    (m : Machine Script) :
    op.Reported ctx
      (transcript m ((op.carryOut (Git.client Script.runner policy) ctx).exec m).2)
      ((op.carryOut (Git.client Script.runner policy) ctx).exec m).1 := by
  cases op with
  | init => exact (accounts_effect _).report m
  | remoteAdd name url => exact (accounts_output _).report m
  | setSparseCheckout dirs =>
    cases dirs with
    | nil => exact ⟨transcript_eq (List.append_nil _).symm, rfl⟩
    | cons dir dirs => exact (accounts_sparse (by simp)).report m
  | fetch spec => exact fetch_report policy ctx spec m
  | checkout reference => exact (accounts_effect _).report m
  | submoduleUpdate withInit depth paths => exact (accounts_effect _).report m
  | configLocal key value => exact (accounts_effect _).report m
  | revParse reference short => exact (accounts_output _).report m
  | log format count => exact (accounts_output _).report m
  | commit branch remote sha => exact (accounts_output _).report m
  | merge reference => exact (accounts_output _).report m
  | fetchTags => exact accounts_fetchTags.report m

/-- The exchanges of a transcript for which git could be started. -/
def started (t : List Exchange) : List Exchange := t.filter fun e => e.answer.isOk

/-- Two attempts of a fetch, the first of them without git: the error counts both. -/
theorem fetch_counts_unstarted :
    let ctx : RepoContext := ⟨"/work/source", .default⟩
    let script : Script := ⟨["work"], [("fetch", [⟨[], .error ("git", "not found")⟩,
      ⟨[], .ok ⟨"", "fatal: no route", 128⟩⟩])], []⟩
    let out := ((Operation.fetch ((FetchSpec.new "origin").withMaxAttempts 2)).carryOut
      (Git.client Script.runner .default) ctx).exec (Machine.bare script)
    out.1 = .error (.retryExhausted "git fetch" 2 128 "fatal: no route") ∧
      (started (transcript (Machine.bare script) out.2)).length = 1 := by
  refine ⟨?_, ?_⟩
  · rfl
  · rfl

end Checkout
