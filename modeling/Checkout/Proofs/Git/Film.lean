import Checkout.Process.Basic
import Checkout.Proofs.Agreement

/-!
# Git on film

What the files are like at the time of a call is gone when the run ends. A filmed runner carries commands
out like the runner itself, and takes a shot before each: the command and the files. What does not call git
cannot tell whether it is filmed.

Results:
* `exec_filmed`: one call on film;
* `blind_onFilm`: the machine on film is the machine itself to all but a runner.
-/

namespace Checkout

variable {ρ : Type}

/-- A call of git: the command, and the files at that time. -/
structure Shot where
  command : Command
  files : FileSystem

/-- What answers the commands, with a shot of each call. -/
structure Filmed (ρ : Type) where
  repo : ρ
  shots : List Shot

namespace Machine

/-- The machine with the shots of the calls so far. -/
def filmed (m : Machine ρ) (shots : List Shot) : Machine (Filmed ρ) :=
  ⟨m.files, m.workDir, m.scratch, m.writeFault, m.log, m.pauses, ⟨m.repo, shots⟩⟩

def unfilmed (n : Machine (Filmed ρ)) : Machine ρ :=
  ⟨n.files, n.workDir, n.scratch, n.writeFault, n.log, n.pauses, n.repo.repo⟩

end Machine

/-- The runner that takes a shot before each call. -/
def Runner.filmed (run : Runner ρ) : Runner (Filmed ρ) := fun c =>
  ExceptT.mk fun n =>
    (((run c).exec n.unfilmed).1,
      ((run c).exec n.unfilmed).2.filmed (n.repo.shots ++ [⟨c, n.files⟩]))

theorem exec_filmed (run : Runner ρ) (c : Command) (m : Machine ρ) (shots : List Shot) :
    (run.filmed c).exec (m.filmed shots) =
      (((run c).exec m).1, ((run c).exec m).2.filmed (shots ++ [⟨c, m.files⟩])) := rfl

/-- The second machine is the first one with these shots. -/
def OnFilm (shots : List Shot) (m : Machine ρ) (n : Machine (Filmed ρ)) : Prop := n = m.filmed shots

theorem blind_onFilm (shots : List Shot) :
    Blind (OnFilm shots : Machine ρ → Machine (Filmed ρ) → Prop) where
  files := fun h => by rw [h]; rfl
  workDir := fun h => by rw [h]; rfl
  writeFault := fun h => by rw [h]; rfl
  alter := fun {m n} h fs => by
    subst h
    rfl
  noting := fun {m n} h record => by
    subst h
    rfl

end Checkout
