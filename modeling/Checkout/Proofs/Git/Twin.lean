import Checkout.Proofs.Agreement
import Checkout.Proofs.Clone.Carry
import Checkout.Proofs.Clone.Lockstep

/-!
# Git on twin machines

Twin machines have the same files and the same script with the same answers left. Their logs are related,
and what their scripts have recorded may differ: a script answers by the subcommand and by nothing else.
So commands with one subcommand agree on twin machines, whatever their other arguments are.

Results:
* `agree_once`: a command and another one with the same subcommand;
* `agree_fetch`: a retried command, attempt by attempt;
* `agree_audit`: the audit of the links.
-/

namespace Checkout

/-- A relation between logs that more records do not end. -/
def Grows (Q : List Record → List Record → Prop) : Prop :=
  ∀ ⦃l l' : List Record⦄, Q l l' → ∀ records, Q (l ++ records) (l' ++ records)

/-- Machines that commands and the readers of files cannot tell apart, and whose logs are related. -/
structure Twin (Q : List Record → List Record → Prop) (m n : Machine Script) : Prop where
  files : m.files = n.files
  workDir : m.workDir = n.workDir
  writeFault : m.writeFault = n.writeFault
  base : m.repo.base = n.repo.base
  answers : m.repo.answers = n.repo.answers
  log : Q m.log n.log

namespace Twin

variable {Q : List Record → List Record → Prop} {m n : Machine Script} {c c' : Command}

theorem noting (hQ : Grows Q) (h : Twin Q m n) (records : List Record) :
    Twin Q (m.noting records) (n.noting records) :=
  { h with log := hQ h.log records }

theorem resting (h : Twin Q m n) (d : Duration) : Twin Q (m.resting d) (n.resting d) :=
  ⟨h.files, h.workDir, h.writeFault, h.base, h.answers, h.log⟩

theorem blind (hQ : Grows Q) : Blind (Twin Q) where
  files := fun h => h.files
  workDir := fun h => h.workDir
  writeFault := fun h => h.writeFault
  alter := fun h _ => { h with files := rfl }
  noting := fun h record => h.noting hQ [record]

theorem next_eq (h : Twin Q m n) (subcommand : String) :
    m.repo.next subcommand = n.repo.next subcommand := by
  unfold Script.next
  rw [h.answers]

/-- Commands with one subcommand get one answer. -/
theorem reply_eq (h : Twin Q m n) (hsub : c.args.headD "" = c'.args.headD "") :
    m.repo.reply c = n.repo.reply c' := by
  unfold Script.reply
  rw [hsub, h.next_eq]

theorem answered (h : Twin Q m n) (hsub : c.args.headD "" = c'.args.headD "") :
    Twin Q (m.answered c) (n.answered c') where
  files := by
    unfold Machine.answered Script.advance
    dsimp only
    rw [hsub, h.next_eq, h.base, h.files]
  workDir := h.workDir
  writeFault := h.writeFault
  base := h.base
  answers := by
    unfold Machine.answered Script.advance
    dsimp only
    rw [hsub, h.answers]
  log := h.log

end Twin

variable {Q : List Record → List Record → Prop} {ctx : RepoContext} {policy : RetryPolicy}

/-! ## Commands -/

/-- **A command agrees with any other one that has its subcommand.** -/
theorem agree_once (operation : String) {args args' : List String}
    (hsub : args.headD "" = args'.headD "") :
    Agree (Twin Q) Eq (Git.once Script.runner ctx operation args)
      (Git.once Script.runner ctx operation args') := by
  intro m n h
  have hcommand : (Git.command ctx args).args.headD "" = (Git.command ctx args').args.headD "" := hsub
  rw [exec_once, exec_once, h.reply_eq hcommand]
  exact ⟨alikeOutcome_refl _, h.answered hcommand⟩

theorem agree_output (operation : String) {args args' : List String}
    (hsub : args.headD "" = args'.headD "") :
    Agree (Twin Q) Eq (Git.output Script.runner ctx operation args)
      (Git.output Script.runner ctx operation args') :=
  agree_then (agree_once operation hsub) fun _ => agree_pure rfl

theorem agree_effect (operation : String) (args : List String) :
    Agree (Twin Q) Eq (Git.effect Script.runner ctx operation args)
      (Git.effect Script.runner ctx operation args) :=
  agree_then (agree_once operation rfl) fun _ => agree_pure rfl

/-! ## Retried commands -/

theorem Twin.patient (hQ : Grows Q) : Patient (Twin Q) where
  noting := fun h records => h.noting hQ records
  resting := fun h d => h.resting d

theorem agree_fetch (hQ : Grows Q) (policy : RetryPolicy) (spec : FetchSpec) :
    Agree (Twin Q) Eq (Git.fetch Script.runner policy ctx spec)
      (Git.fetch Script.runner policy ctx spec) := by
  have hcall : ∀ args, Agree (Twin Q) Eq (Script.runner (Git.command ctx args))
      (Script.runner (Git.command ctx args)) := by
    intro args m n h
    rw [exec_runner, exec_runner, h.reply_eq rfl]
    exact ⟨alikeOutcome_refl _, h.answered rfl⟩
  exact (lockstep_git (Twin.patient hQ) hcall).1.fetch spec

/-! ## The audit -/

theorem agree_audit (hQ : Grows Q) (path : ByteString) :
    Agree (Twin Q) Eq (SymlinkAudit.audit path) (SymlinkAudit.audit path) := by
  intro m n h
  rw [SymlinkAudit.exec_audit, SymlinkAudit.exec_audit, h.files, h.workDir]
  exact ⟨alikeOutcome_refl _, h.noting hQ _⟩

end Checkout
