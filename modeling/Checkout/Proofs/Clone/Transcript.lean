import Checkout.Proofs.Clone.Refinement
import Mathlib.Data.List.Basic

/-!
# What git was asked and what it answered

A script answers from what it has left, so the commands that it has recorded determine its answers.
A transcript puts each command together with its answer. A plan that was carried out shows in the
transcript alone: `Performed` says how, without any machine.

Results:
* `Executes.performed`, `performed_run`: an execution of a plan, and a run of a request, as a transcript;
* `Performed.reached`: where a command stands in a transcript, all that was planned before it has
  succeeded before it;
* `Performed.split`, `Performed.last`: what has succeeded, in parts and from its end;
* `Performed.last_failed`: what was broken off ends with a failure.
-/

namespace Checkout

/-! ## Transcripts -/

/-- A command with the answer to it. -/
structure Exchange where
  command : Command
  answer : Attempted

namespace Exchange

def args (e : Exchange) : List String := e.command.args

/-- What kind of command it was. -/
def subcommand (e : Exchange) : String := e.args.headD ""

end Exchange

namespace Script

/-- The script once it has answered a command. -/
def after (s : Script) (c : Command) : Script :=
  { s.advance (c.args.headD "") with calls := (s.advance (c.args.headD "")).calls ++ [c] }

/-- The answers of the script to commands, one after another. -/
def exchanges : Script → List Command → List Exchange
  | _, [] => []
  | s, c :: rest => ⟨c, s.reply c⟩ :: exchanges (s.after c) rest

theorem exchanges_append (s : Script) (front back : List Command) :
    s.exchanges (front ++ back) = s.exchanges front ++ (front.foldl after s).exchanges back := by
  induction front generalizing s with
  | nil => rfl
  | cons c front ih => simp only [List.cons_append, exchanges, List.foldl_cons, ih]

theorem calls_foldl_after (s : Script) (calls : List Command) :
    (calls.foldl after s).calls = s.calls ++ calls := by
  induction calls generalizing s with
  | nil => exact (List.append_nil _).symm
  | cons c calls ih =>
    have hafter : (s.after c).calls = s.calls ++ [c] := rfl
    rw [List.foldl_cons, ih, hafter, List.append_assoc, List.singleton_append]

end Script

/-- What git was asked and answered from a machine to a later one. -/
def transcript (m m' : Machine Script) : List Exchange :=
  m.repo.exchanges (m'.repo.calls.drop m.repo.calls.length)

theorem transcript_eq {m m' : Machine Script} {calls : List Command}
    (h : m'.repo.calls = m.repo.calls ++ calls) : transcript m m' = m.repo.exchanges calls := by
  unfold transcript
  rw [h, List.drop_left]

/-- Exchanges in which one command was made and did not succeed. -/
def AllFailed (c : Command) (t : List Exchange) : Prop :=
  ∀ e ∈ t, e.command = c ∧ ¬ Succeeded e.answer

theorem Repeated.repo_eq {c : Command} {k : Nat} {m m' : Machine Script} {answer : Attempted}
    (h : Repeated c k m answer m') : m'.repo = (List.replicate k c).foldl Script.after m.repo := by
  induction h with
  | once m => rfl
  | again _ _ ih => exact ih

/-- A repeated command shows as failures before its last answer. -/
theorem Repeated.exchanges {c : Command} {k : Nat} {m m' : Machine Script} {answer : Attempted}
    (h : Repeated c k m answer m') :
    ∃ failed, m.repo.exchanges (List.replicate k c) = failed ++ [⟨c, answer⟩] ∧
      failed.length + 1 = k ∧ AllFailed c failed := by
  induction h with
  | once m => exact ⟨[], rfl, rfl, fun e he => absurd he List.not_mem_nil⟩
  | @again k m m' answer hfailed _ ih =>
    obtain ⟨failed, heq, hlen, hall⟩ := ih
    refine ⟨⟨c, m.repo.reply c⟩ :: failed, ?_, by simp [hlen], ?_⟩
    · have hafter : (m.answered c).repo = m.repo.after c := rfl
      rw [hafter] at heq
      rw [List.replicate_succ, Script.exchanges, heq, List.cons_append]
    · intro e he
      rcases List.mem_cons.mp he with rfl | he
      · exact ⟨rfl, hfailed⟩
      · exact hall e he

/-! ## Plans in transcripts -/

/-- What kind of command an item makes, whatever the head that is kept. -/
def PlanItem.subcommand : PlanItem → String
  | .call args => args.headD ""
  | .fetch args => args.headD ""
  | .head => "rev-parse"
  | .commit _ _ => "commit"
  | .audit => ""

theorem PlanItem.subcommand_of_args {kept : String} {item : PlanItem} {args : List String}
    (h : item.args? kept = some args) : args.headD "" = item.subcommand := by
  cases item <;> simp [PlanItem.args?] at h <;> subst h <;> rfl

/-- A plan was carried out with these exchanges, from the head that was kept to the head that is kept at
the end. There is no head at the end if the plan was broken off, and then the last exchange failed or the
audit did. -/
inductive Performed (ctx : RepoContext) (attempts : Nat) :
    String → List PlanItem → List Exchange → Option String → Prop
  | done (kept : String) : Performed ctx attempts kept [] [] (some kept)
  | command {kept : String} {item : PlanItem} {rest : List PlanItem} {args : List String}
      {failed t : List Exchange} {out : CommandOutput} {final : Option String} :
      item.args? kept = some args → AllFailed (Git.command ctx args) failed →
      failed.length < item.most attempts → out.exitCode = 0 →
      Performed ctx attempts (item.keep kept out) rest t final →
      Performed ctx attempts kept (item :: rest) (failed ++ ⟨Git.command ctx args, .ok out⟩ :: t) final
  | commandFails {kept : String} {item : PlanItem} {rest : List PlanItem} {args : List String}
      {failed : List Exchange} :
      item.args? kept = some args → AllFailed (Git.command ctx args) failed → failed ≠ [] →
      failed.length ≤ item.most attempts →
      Performed ctx attempts kept (item :: rest) failed none
  | audit {kept : String} {rest : List PlanItem} {t : List Exchange} {final : Option String} :
      Performed ctx attempts kept rest t final →
      Performed ctx attempts kept (.audit :: rest) t final
  | auditFails {kept : String} {rest : List PlanItem} :
      Performed ctx attempts kept (.audit :: rest) [] none

variable {ctx : RepoContext} {attempts : Nat} {kept next : String} {p q : List PlanItem}
  {t before after : List Exchange} {e : Exchange} {final : Option String}

/-- **An execution of a plan shows in its exchanges.** -/
theorem Executes.performed {m m' : Machine Script} {calls : List Command}
    (h : Executes ctx attempts kept p m calls final m') :
    Performed ctx attempts kept p (m.repo.exchanges calls) final := by
  induction h with
  | done kept m => exact .done kept
  | @command kept item rest args k m m₁ m' out calls final hargs hk hr hout _ ih =>
    obtain ⟨failed, heq, hlen, hall⟩ := hr.exchanges
    rw [Script.exchanges_append, heq, ← hr.repo_eq, List.append_assoc]
    exact .command hargs hall (by omega) hout ih
  | commandFails hargs hk hr hans =>
    obtain ⟨failed, heq, hlen, hall⟩ := hr.exchanges
    rw [heq]
    refine .commandFails hargs ?_ (by simp) (by simpa [hlen] using hk)
    intro e he
    rcases List.mem_append.mp he with he | he
    · exact hall e he
    · obtain rfl := List.mem_singleton.mp he
      exact ⟨rfl, hans⟩
  | audit _ _ ih => exact .audit ih
  | auditFails _ => exact .auditFails

namespace Performed

/-- **Where a command stands in a transcript**, it is a command of an item, what was planned before the
item has succeeded, and before the command there is nothing else but failures of the same command. -/
theorem reached (h : Performed ctx attempts kept p t final) (ht : t = before ++ e :: after) :
    ∃ done item rest start failed kept' args, p = done ++ item :: rest ∧ before = start ++ failed ∧
      Performed ctx attempts kept done start (some kept') ∧ item.args? kept' = some args ∧
      e.command = Git.command ctx args ∧ AllFailed e.command failed ∧
      failed.length < item.most attempts := by
  induction h generalizing before with
  | done kept => simp at ht
  | @command kept item rest args failed t out final hargs hall hmost hout hrest ih =>
    rcases List.append_eq_append_iff.mp ht with ⟨more, hbefore, hmore⟩ | ⟨more, hfailed, hmore⟩
    · -- The command is the one that succeeded or comes after it.
      cases more with
      | nil =>
        obtain ⟨rfl, -⟩ := List.cons.inj hmore
        rw [List.append_nil] at hbefore
        exact ⟨[], item, rest, [], failed, kept, args, rfl, hbefore, .done kept, hargs, rfl, hall, hmost⟩
      | cons x more =>
        obtain ⟨rfl, htail⟩ := List.cons.inj hmore
        obtain ⟨done, item', rest', start, failed', kept', args', rfl, hstart, hdone, hrest'⟩ := ih htail
        refine ⟨item :: done, item', rest', failed ++ ⟨Git.command ctx args, .ok out⟩ :: start, failed',
          kept', args', rfl, ?_, .command hargs hall hmost hout hdone, hrest'⟩
        rw [hbefore, hstart, List.append_assoc, List.cons_append]
    · -- The command is among those that failed or the one that succeeded.
      subst hfailed
      have hall' : AllFailed (Git.command ctx args) before := fun x hx =>
        hall x (List.mem_append_left _ hx)
      have hcommand : e.command = Git.command ctx args := by
        cases more with
        | nil =>
          obtain ⟨rfl, -⟩ := List.cons.inj hmore
          rfl
        | cons x more =>
          obtain ⟨rfl, -⟩ := List.cons.inj hmore
          exact (hall e (by simp)).1
      rw [List.length_append] at hmost
      refine ⟨[], item, rest, [], before, kept, args, rfl, rfl, .done kept, hargs, hcommand, ?_, by omega⟩
      rwa [hcommand]
  | @commandFails kept item rest args failed hargs hall hne hmost =>
    subst ht
    have hcommand : e.command = Git.command ctx args := (hall e (by simp)).1
    rw [List.length_append, List.length_cons] at hmost
    refine ⟨[], item, rest, [], before, kept, args, rfl, rfl, .done kept, hargs, hcommand, ?_, by omega⟩
    rw [hcommand]
    exact fun x hx => hall x (List.mem_append_left _ hx)
  | audit _ ih =>
    obtain ⟨done, item, rest, start, failed, kept', args, rfl, hbefore, hdone, hrest⟩ := ih ht
    exact ⟨.audit :: done, item, rest, start, failed, kept', args, rfl, hbefore, .audit hdone, hrest⟩
  | auditFails => simp at ht

/-- The only item of its kind in a plan is where the only commands of that kind come from: before such a
command, what was planned before the item has succeeded. -/
theorem reached_only {item : PlanItem} (h : Performed ctx attempts kept (p ++ item :: q) t final)
    (ht : t = before ++ e :: after) (he : e.subcommand = item.subcommand)
    (honly : ∀ x ∈ p ++ q, x.subcommand ≠ item.subcommand) (hone : item.most attempts = 1) :
    ∃ kept' args, Performed ctx attempts kept p before (some kept') ∧ item.args? kept' = some args ∧
      e.command = Git.command ctx args := by
  obtain ⟨done, item', rest, start, failed, kept', args, hp, hbefore, hdone, hargs, hcommand, -, hmost⟩ :=
    h.reached ht
  have hsub : item'.subcommand = item.subcommand := by
    rw [← PlanItem.subcommand_of_args hargs, ← he, Exchange.subcommand, Exchange.args, hcommand]
    rfl
  have hnot : item' ∉ p ∧ item' ∉ q :=
    ⟨fun hmem => honly item' (List.mem_append_left _ hmem) hsub,
      fun hmem => honly item' (List.mem_append_right _ hmem) hsub⟩
  have hitem : item' = item := by
    have hmem : item' ∈ p ++ item :: q := by rw [hp]; simp
    rcases List.mem_append.mp hmem with hmem | hmem
    · exact absurd hmem hnot.1
    · exact (List.mem_cons.mp hmem).resolve_right hnot.2
  subst hitem
  obtain ⟨rfl, -, -⟩ := (List.append_cons_inj_of_notMem hnot.1 hnot.2).mp hp
  rw [hone, Nat.lt_one_iff, List.length_eq_zero_iff] at hmost
  subst hmost
  rw [List.append_nil] at hbefore
  exact ⟨kept', args, hbefore ▸ hdone, hargs, hcommand⟩

/-- Every command is one of an item. -/
theorem exists_item (h : Performed ctx attempts kept p t final) (he : e ∈ t) :
    ∃ item ∈ p, ∃ kept', item.args? kept' = some e.args := by
  obtain ⟨before, after, ht⟩ := List.append_of_mem he
  obtain ⟨done, item, rest, _, _, kept', args, rfl, -, -, hargs, hcommand, -⟩ := h.reached ht
  refine ⟨item, by simp, kept', ?_⟩
  rw [Exchange.args, hcommand]
  exact hargs

theorem subcommand_mem (h : Performed ctx attempts kept p t final) (he : e ∈ t) :
    ∃ item ∈ p, item.subcommand = e.subcommand := by
  obtain ⟨item, hitem, kept', hargs⟩ := h.exists_item he
  exact ⟨item, hitem, (PlanItem.subcommand_of_args hargs).symm⟩

/-- A plan in two parts was broken off in the first one, or the second one was begun. -/
theorem split (h : Performed ctx attempts kept (p ++ q) t final) :
    (Performed ctx attempts kept p t none ∧ final = none) ∨
      ∃ start rest kept', t = start ++ rest ∧ Performed ctx attempts kept p start (some kept') ∧
        Performed ctx attempts kept' q rest final := by
  generalize hpq : p ++ q = plan at h
  induction h generalizing p with
  | done kept =>
    obtain ⟨rfl, rfl⟩ := List.append_eq_nil_iff.mp hpq
    exact Or.inr ⟨[], [], kept, rfl, .done kept, .done kept⟩
  | @command kept item rest args failed t out final hargs hall hmost hout hrest ih =>
    cases p with
    | nil =>
      obtain rfl : q = item :: rest := hpq
      exact Or.inr ⟨[], _, kept, rfl, .done kept, .command hargs hall hmost hout hrest⟩
    | cons x p =>
      obtain ⟨rfl, htail⟩ := List.cons.inj hpq
      rcases ih htail with ⟨hp, hfinal⟩ | ⟨start, rest', kept', rfl, hp, hq⟩
      · exact Or.inl ⟨.command hargs hall hmost hout hp, hfinal⟩
      · refine Or.inr ⟨failed ++ ⟨Git.command ctx args, .ok out⟩ :: start, rest', kept', by simp, ?_, hq⟩
        exact .command hargs hall hmost hout hp
  | @commandFails kept item rest args failed hargs hall hne hmost =>
    cases p with
    | nil =>
      obtain rfl : q = item :: rest := hpq
      exact Or.inr ⟨[], _, kept, rfl, .done kept, .commandFails hargs hall hne hmost⟩
    | cons x p =>
      obtain ⟨rfl, -⟩ := List.cons.inj hpq
      exact Or.inl ⟨.commandFails hargs hall hne hmost, rfl⟩
  | @audit kept rest t final hrest ih =>
    cases p with
    | nil =>
      obtain rfl : q = .audit :: rest := hpq
      exact Or.inr ⟨[], _, kept, rfl, .done kept, .audit hrest⟩
    | cons x p =>
      obtain ⟨rfl, htail⟩ := List.cons.inj hpq
      rcases ih htail with ⟨hp, hfinal⟩ | ⟨start, rest', kept', rfl, hp, hq⟩
      · exact Or.inl ⟨.audit hp, hfinal⟩
      · exact Or.inr ⟨start, rest', kept', rfl, .audit hp, hq⟩
  | @auditFails kept rest =>
    cases p with
    | nil =>
      obtain rfl : q = .audit :: rest := hpq
      exact Or.inr ⟨[], [], kept, rfl, .done kept, .auditFails⟩
    | cons x p =>
      obtain ⟨rfl, -⟩ := List.cons.inj hpq
      exact Or.inl ⟨.auditFails, rfl⟩

/-- **The last item of a plan that was carried out** ended with a success, after what was planned before
it and after failures of its own. -/
theorem last {item : PlanItem} (h : Performed ctx attempts kept (p ++ [item]) t (some next))
    (hitem : item ≠ .audit) :
    ∃ start failed out kept' args, t = start ++ failed ++ [⟨Git.command ctx args, .ok out⟩] ∧
      Performed ctx attempts kept p start (some kept') ∧ item.args? kept' = some args ∧
      AllFailed (Git.command ctx args) failed ∧ failed.length < item.most attempts ∧
      out.exitCode = 0 ∧ next = item.keep kept' out := by
  rcases h.split with ⟨-, hnone⟩ | ⟨start, rest, kept', rfl, hp, hlast⟩
  · cases hnone
  · cases hlast with
    | @command _ _ _ args failed _ out _ hargs hall hmost hout hdone =>
      cases hdone
      exact ⟨start, failed, out, kept', args, by simp, hp, hargs, hall, hmost, hout, rfl⟩
    | audit _ => exact absurd rfl hitem

/-- A fetch at the end of a plan that was carried out. -/
theorem last_fetch {args : List String}
    (h : Performed ctx attempts kept (p ++ [.fetch args]) t (some next)) :
    ∃ start fetch, t = start ++ [fetch] ∧ fetch.args = args ∧ Succeeded fetch.answer ∧
      ∃ earlier failed, start = earlier ++ failed ∧ Performed ctx attempts kept p earlier (some next) ∧
        ∀ x ∈ failed, x.args = args := by
  obtain ⟨start, failed, out, kept', args', rfl, hp, hargs, hall, -, hout, rfl⟩ := h.last (by simp)
  obtain rfl : args = args' := by simpa [PlanItem.args?] using hargs
  refine ⟨start ++ failed, ⟨Git.command ctx args, .ok out⟩, rfl, rfl, hout, start, failed, rfl, hp,
    fun x hx => ?_⟩
  rw [Exchange.args, (hall x hx).1]
  rfl

/-- A command at the end of a plan that was carried out. -/
theorem last_call {args : List String}
    (h : Performed ctx attempts kept (p ++ [.call args]) t (some next)) :
    ∃ start call, t = start ++ [call] ∧ call.args = args ∧ Succeeded call.answer ∧
      Performed ctx attempts kept p start (some next) := by
  obtain ⟨start, failed, out, kept', args', rfl, hp, hargs, -, hmost, hout, rfl⟩ := h.last (by simp)
  obtain rfl : args = args' := by simpa [PlanItem.args?] using hargs
  obtain rfl : failed = [] := List.length_eq_zero_iff.mp (Nat.lt_one_iff.mp hmost)
  exact ⟨start, ⟨Git.command ctx args, .ok out⟩, by rw [List.append_nil], rfl, hout, hp⟩

/-- Every command of a plan that was carried out was made. -/
theorem exists_call {args : List String} (h : Performed ctx attempts kept p t (some next))
    (hmem : PlanItem.call args ∈ p) : ∃ e ∈ t, e.args = args := by
  obtain ⟨front, back, rfl⟩ := List.append_of_mem hmem
  rw [List.append_cons] at h
  rcases h.split with ⟨-, hnone⟩ | ⟨start, rest, kept', rfl, hfront, -⟩
  · cases hnone
  · obtain ⟨earlier, call, rfl, hcall, -, -⟩ := hfront.last_call
    exact ⟨call, by simp, hcall⟩

/-- The head at the end of a plan that was carried out is the one that was answered. -/
theorem last_head (h : Performed ctx attempts kept (p ++ [.head]) t (some next)) :
    ∃ start head out kept', t = start ++ [head] ∧ head.args = ["rev-parse", "HEAD"] ∧
      head.answer = .ok out ∧ out.exitCode = 0 ∧ next = Text.trim out.stdout ∧
      Performed ctx attempts kept p start (some kept') := by
  obtain ⟨start, failed, out, kept', args', rfl, hp, hargs, -, hmost, hout, rfl⟩ := h.last (by simp)
  obtain rfl : ["rev-parse", "HEAD"] = args' := by simpa [PlanItem.args?] using hargs
  obtain rfl : failed = [] := List.length_eq_zero_iff.mp (Nat.lt_one_iff.mp hmost)
  exact ⟨start, ⟨Git.command ctx ["rev-parse", "HEAD"], .ok out⟩, out, kept',
    by rw [List.append_nil], rfl, rfl, hout, rfl, hp⟩

/-- A commit at the end of a plan that was carried out. -/
theorem last_commit {branch remote : String}
    (h : Performed ctx attempts kept (p ++ [.commit branch remote]) t (some next)) :
    ∃ start commit, t = start ++ [commit] ∧ commit.subcommand = "commit" ∧
      Succeeded commit.answer := by
  obtain ⟨start, failed, out, kept', args', rfl, -, hargs, -, -, hout, -⟩ := h.last (by simp)
  exact ⟨start ++ failed, ⟨Git.command ctx args', .ok out⟩, rfl, PlanItem.subcommand_of_args hargs, hout⟩

/-- What was broken off, but not by the audit, ends with a failure. -/
theorem last_failed (h : Performed ctx attempts kept p t none) (hp : PlanItem.audit ∉ p) :
    ∃ start e, t = start ++ [e] ∧ ¬ Succeeded e.answer := by
  generalize hnone : (none : Option String) = final at h
  induction h with
  | done kept => cases hnone
  | @command kept item rest args failed t out final _ _ _ _ _ ih =>
    obtain ⟨start, e, rfl, he⟩ := ih (fun hmem => hp (List.mem_cons_of_mem _ hmem)) hnone
    exact ⟨failed ++ ⟨Git.command ctx args, .ok out⟩ :: start, e, by simp, he⟩
  | @commandFails kept item rest args failed _ hall hne _ =>
    refine ⟨failed.dropLast, failed.getLast hne, (List.dropLast_append_getLast hne).symm, ?_⟩
    exact (hall _ (List.getLast_mem hne)).2
  | audit _ _ => exact absurd List.mem_cons_self hp
  | auditFails => exact absurd List.mem_cons_self hp

end Performed

/-! ## The transcript of a run -/

namespace Carries

variable {α : Type} {x : Run Script α} {post : α → String → Prop} {m m' : Machine Script}

theorem performed_ok {a : α} (h : Carries ctx attempts x kept p post) (he : x.exec m = (.ok a, m')) :
    ∃ next, Performed ctx attempts kept p (transcript m m') (some next) ∧ post a next := by
  obtain ⟨calls, next, hexec, hpost⟩ := h.ok he
  have hcalls : m'.repo.calls = m.repo.calls ++ calls := hexec.calls_eq
  refine ⟨next, ?_, hpost⟩
  rw [transcript_eq hcalls]
  exact hexec.performed

theorem performed_error {e : Error} (h : Carries ctx attempts x kept p post)
    (he : x.exec m = (.error e, m')) : Performed ctx attempts kept p (transcript m m') none := by
  obtain ⟨calls, hexec⟩ := h.error he
  have hcalls : m'.repo.calls = m.repo.calls ++ calls := hexec.calls_eq
  rw [transcript_eq hcalls]
  exact hexec.performed

end Carries

open Clone

/-- **The transcript of a run** is empty, as long as nothing was set up, or shows its plan. -/
theorem performed_run (policy : RetryPolicy) {r : CloneRequest} (m : Machine Script)
    (hvalid : r.validate = .ok ()) :
    transcript m ((run (Git.client Script.runner policy) r).exec m).2 = [] ∨
      ∃ ctx final, Performed ctx (max 1 r.retryMaxAttempts) "" r.plan
        (transcript m ((run (Git.client Script.runner policy) r).exec m).2) final := by
  obtain ⟨hdepth, hmerge⟩ := depths_of_validate hvalid
  have hrepo := prepared_repo r m
  cases hprepared : prepared r m with
  | mk o m₁ =>
    rw [hprepared] at hrepo
    -- What answers the commands is what it was, so setting up does not show.
    have hsame : ∀ m₂, transcript m m₂ = transcript m₁ m₂ := fun m₂ => by
      rw [transcript, transcript, ← hrepo]
    cases o with
    | error e =>
      left
      rw [exec_run_of_not_prepared _ hvalid hprepared, hsame]
      exact transcript_eq (List.append_nil _).symm
    | ok env =>
      right
      rw [exec_run_of_prepared _ hvalid hprepared, hsame]
      refine ⟨⟨r.checkoutDir, env⟩, ?_⟩
      have hcarries : Carries ⟨r.checkoutDir, env⟩ (max 1 r.retryMaxAttempts)
          (inCheckout (Git.client Script.runner policy) r ⟨r.checkoutDir, env⟩) "" r.plan
          fun _ _ => True := carries_inCheckout hdepth hmerge
      cases ho : (inCheckout (Git.client Script.runner policy) r ⟨r.checkoutDir, env⟩).exec m₁ with
      | mk o m₂ =>
        cases o with
        | ok result =>
          obtain ⟨next, hperformed, -⟩ := hcarries.performed_ok ho
          exact ⟨some next, hperformed⟩
        | error e =>
          have hperformed := hcarries.performed_error ho
          exact ⟨none, hperformed⟩

end Checkout
