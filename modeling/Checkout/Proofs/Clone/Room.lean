import Checkout.Proofs.Credentials.PrivateDir

/-!
# Room for a private directory

A run makes a directory for itself, in a place where nothing is. Directories lead there, and its path
name can be asked for; so once it is made it is found under its path name, and it is empty. A run always makes
its directory: `HasRoom` says where, and not that it can.

Results:
* `HasRoom.entered_private`: the directory that a run makes is private.
-/

namespace Checkout

open FileSystem (absolutePath)

variable {ρ : Type} {m : Machine ρ}

/-- There is room for the private directory of a run. -/
structure HasRoom (m : Machine ρ) : Prop where
  named : m.files.Named
  /-- Directories lead to the place, by names that can be asked for. -/
  reached : m.files.Reached m.scratch
  short : (absolutePath m.scratch).length ≤ FileSystem.maxPathBytes
  /-- Nothing stands there. -/
  free : m.files.get? m.scratch = none
  empty : m.files.below m.scratch = []

namespace HasRoom

theorem ne_nil (h : HasRoom m) : m.scratch ≠ [] := by
  intro hroot
  have hfree := h.free
  rw [hroot] at hfree
  cases hfree

/-- Nothing stands there or below. -/
theorem get?_eq_none (h : HasRoom m) {l : Location} (hl : m.scratch <+: l) : m.files.get? l = none := by
  by_cases hsame : l = m.scratch
  · rw [hsame]
    exact h.free
  · exact FileSystem.get?_eq_none_of_below h.empty (FileSystem.isBelow_iff.mpr ⟨hl, hsame⟩)

theorem entered_get? (h : HasRoom m) :
    (Run.enterPrivateDir m).files.get? m.scratch = some (.dir Run.privateDirMode) :=
  FileSystem.get?_put_self h.ne_nil

theorem entered_reached (h : HasRoom m) : (Run.enterPrivateDir m).files.Reached m.scratch where
  ordinary := h.reached.ordinary
  dirs := fun k hk => by
    have hne : m.scratch.take k ≠ m.scratch := by
      intro hsame
      have hlength := congrArg List.length hsame
      rw [List.length_take] at hlength
      omega
    have hold := h.reached.dirs k hk
    rwa [← FileSystem.get?_put_of_ne hne] at hold

/-- **The private directory is found** under its path name. -/
theorem entered_locate (h : HasRoom m) (here : Location) :
    (Run.enterPrivateDir m).files.locate here (absolutePath m.scratch) =
      .ok (m.scratch, .dir Run.privateDirMode) :=
  FileSystem.locate_absolutePath h.entered_reached h.short h.entered_get? rfl

theorem entered_below (h : HasRoom m) : (Run.enterPrivateDir m).files.below m.scratch = [] := by
  have hself : FileSystem.isBelow m.scratch m.scratch = false := by
    simp [FileSystem.isBelow]
  unfold Run.enterPrivateDir FileSystem.below FileSystem.put
  rw [List.filter_cons_of_neg (by simp [hself]), List.filter_filter]
  refine List.filter_eq_nil_iff.mpr fun x hx => ?_
  have hnone := List.filter_eq_nil_iff.mp h.empty x hx
  simp_all

/-- **The private directory is private.** -/
theorem entered_private (h : HasRoom m) (here : Location) (K : ByteString → Prop) :
    Credentials.Private here (absolutePath m.scratch) m.scratch K (Run.enterPrivateDir m).files := by
  refine .of_empty (h.named.put fun name hname => ?_) (h.entered_locate here) h.entered_below
  exact (h.reached.ordinary name hname).1

end HasRoom

end Checkout
