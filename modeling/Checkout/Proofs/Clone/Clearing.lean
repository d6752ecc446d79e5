import Checkout.Proofs.Clone.CaBundle
import Checkout.Proofs.Clone.CheckoutDir
import Checkout.Proofs.Clone.EarlyFailure
import Checkout.Proofs.FileSystem.Descent

/-!
# What a run removes

A run empties the directory of the checkout if it is told to, and removes its private directory; all else
only adds. So what is lost was below the directory of the checkout. The name of this directory stays inside
the output directory, but it is walked like any other: where a name of the subdirectory is a link, the walk
leaves the output directory, and what is emptied is there.

Results:
* `lost_prepared`: what is lost when everything is set up was below the directory of the checkout;
* `Seen.lost`: nothing else is lost later;
* `lost_below_checkout_dir`: it was below the output directory, unless the subdirectory has a link;
* `lost_beside_output_dir_through_link`: with a link it need not have been.
-/

namespace Checkout

open Clone
open FileSystem (LinkOnWay isBelow)

namespace FileSystem

variable {fs fs' fs'' : FileSystem} {l : Location}

/-- An entry is lost: it was there and is no more. -/
def Lost (fs fs' : FileSystem) (l : Location) : Prop := fs.get? l ≠ none ∧ fs'.get? l = none

theorem Keeps.not_lost (h : Keeps fs fs') : ¬ Lost fs fs' l := by
  rintro ⟨hthere, hgone⟩
  obtain ⟨e, he⟩ := Option.ne_none_iff_exists'.mp hthere
  obtain ⟨e', he', -⟩ := h l e he
  rw [hgone] at he'
  cases he'

/-- What is lost is lost before or after. -/
theorem Lost.before_or_after (h : Lost fs fs'' l) (fs' : FileSystem) : Lost fs fs' l ∨ Lost fs' fs'' l := by
  by_cases hmid : fs'.get? l = none
  · exact Or.inl ⟨h.1, hmid⟩
  · exact Or.inr ⟨hmid, h.2⟩

end FileSystem

open FileSystem (Lost)

section Setting

variable {ρ : Type} {m : Machine ρ} {r : CloneRequest} {l : Location}

/-! ## Setting up -/

/-- What is lost when a directory is emptied was below it. -/
theorem Workspace.lost_clean {path : ByteString} (hnamed : m.files.Named)
    (h : Lost m.files ((Workspace.clean path).exec m).2.files l) :
    ∃ dir d, m.files.locate m.workDir path = .ok (dir, d) ∧ isBelow dir l = true := by
  have hsame : ((Workspace.clean path).exec m).2 ≠ m := by
    intro hsame
    rw [hsame] at h
    exact (FileSystem.Keeps.refl _).not_lost h
  cases hfound : m.files.locate m.workDir path with
  | error e =>
    by_cases hmissing : e = .os .noEntry
    · exact absurd (by rw [Workspace.exec_clean_of_noEntry (hmissing ▸ hfound)]) hsame
    · exact absurd (by rw [Workspace.exec_clean_of_error hfound hmissing]) hsame
  | ok found =>
    obtain ⟨dir, d⟩ := found
    cases hkind : d.isDir with
    | false => exact absurd (by rw [Workspace.exec_clean_of_not_dir hfound hkind]) hsame
    | true =>
      obtain ⟨mode, rfl⟩ : ∃ mode, d = .dir mode := by
        cases d <;> first | exact ⟨_, rfl⟩ | cases hkind
      refine ⟨dir, _, rfl, ?_⟩
      by_contra hnot
      have hkept := (Workspace.removed_clean hnamed hfound).pruned.same l (by simpa using hnot)
      rw [h.2] at hkept
      exact h.1 hkept.symm

/-- Making the ground ready, only emptying loses something. -/
theorem Clone.lost_clearGround (hnamed : m.files.Named) (h : Lost m.files ((clearGround r).exec m).2.files l) :
    r.deleteExisting = true ∧
      ∃ dir d, m.files.locate m.workDir r.checkoutDir = .ok (dir, d) ∧ isBelow dir l = true := by
  have hprepare : ∀ n : Machine ρ, ¬ Lost n.files ((Workspace.prepare r.checkoutDir).exec n).2.files l := by
    intro n
    unfold Workspace.prepare
    rw [Run.exec_makeDirs]
    exact (FileSystem.keeps_makeDirs _ _ _).not_lost
  unfold clearGround at h
  by_cases hdelete : r.deleteExisting = true
  · refine ⟨hdelete, Workspace.lost_clean hnamed ?_⟩
    rw [if_pos hdelete, Run.exec_bind] at h
    cases hclean : (Workspace.clean r.checkoutDir).exec m with
    | mk o n =>
      rw [hclean] at h
      cases o with
      | error e => exact h
      | ok _ => exact (h.before_or_after n.files).resolve_right (hprepare n)
  · rw [if_neg hdelete] at h
    exact absurd h (hprepare m)

/-- **Setting up**, what is lost was below the directory that the path name of the checkout leads to. -/
theorem Clone.lost_prepared (hroom : HasRoom m) (h : Lost m.files (prepared r m).2.files l) :
    r.deleteExisting = true ∧
      ∃ dir d, (staged r m).2.files.locate m.workDir r.checkoutDir = .ok (dir, d) ∧
        isBelow dir l = true := by
  obtain ⟨hkept, hremove, hhere, -⟩ := kept_staged hroom r
  have hnamed := hkept.named
  have hkeeps := FileSystem.keeps_of_remove hroom.ne_nil hremove
  cases hstaged : staged r m with
  | mk o m₁ =>
    rw [hstaged] at hhere hkeeps hnamed
    cases o with
    | error e =>
      rw [prepared_of_not_staged hstaged] at h
      exact absurd h hkeeps.not_lost
    | ok env =>
      have hfiles : (prepared r m).2.files = ((clearGround r).exec m₁).2.files := by
        rw [prepared_of_staged hstaged, Run.exec_bind]
        cases (clearGround r).exec m₁ with
        | mk o n => cases o <;> rfl
      rw [hfiles] at h
      have hcleared := lost_clearGround hnamed ((h.before_or_after m₁.files).resolve_left hkeeps.not_lost)
      rwa [hhere] at hcleared

end Setting

/-! ## The whole run -/

section Whole

variable {m : Machine Script} {r : CloneRequest} {l : Location}

/-- The files as git sees them at a call of a run, or as the run leaves them. -/
inductive Clone.Seen (policy : RetryPolicy) (r : CloneRequest) (m : Machine Script) : FileSystem → Prop
  | called {shot : Shot} : shot ∈ (film policy r m).2.repo.shots → Seen policy r m shot.files
  | left : Seen policy r m ((run (Git.client Script.runner policy) r).exec m).2.files

/-- After setting up, a run adds to the files; in the end it removes its private directory. -/
theorem Clone.Seen.kept {policy : RetryPolicy} {fs : FileSystem} (h : Seen policy r m fs)
    (hvalid : r.validate = .ok ()) :
    ∃ full, FileSystem.Keeps (prepared r m).2.files full ∧ (fs = full ∨ fs = full.remove m.scratch) := by
  cases hprepared : prepared r m with
  | mk o m₁ =>
    cases o with
    | error e =>
      cases h with
      | called hshot =>
        have hnone := film_of_not_prepared (r := r) (m := m) policy fun env _ henv => by
          rw [hprepared] at henv
          cases henv
        rw [hnone] at hshot
        cases hshot
      | left =>
        rw [exec_run_of_not_prepared _ hvalid hprepared]
        exact ⟨m₁.files, .refl _, Or.inr rfl⟩
    | ok env =>
      cases h with
      | @called shot hshot =>
        obtain ⟨-, -, m₂, hunrolled⟩ := film_of_prepared policy hvalid hprepared
        exact ⟨shot.files, (hunrolled.shots shot hshot).2, Or.inl rfl⟩
      | left =>
        rw [exec_run_of_prepared _ hvalid hprepared]
        exact ⟨_, keeps_inCheckout policy r ⟨r.checkoutDir, env⟩ m₁, Or.inr rfl⟩

/-- What a run loses, it loses while it is set up. -/
theorem Clone.Seen.lost {policy : RetryPolicy} {fs : FileSystem} (h : Seen policy r m fs)
    (hroom : HasRoom m) (hvalid : r.validate = .ok ()) (hlost : Lost m.files fs l) :
    Lost m.files (prepared r m).2.files l := by
  obtain ⟨full, hkeeps, hfs⟩ := h.kept hvalid
  have hgone : full.get? l = none := by
    obtain rfl | rfl := hfs
    · exact hlost.2
    · have hnot : ¬ m.scratch.isPrefixOf l = true := by
        rw [List.isPrefixOf_iff_prefix]
        exact fun hfront => hlost.1 (hroom.get?_eq_none hfront)
      have hgone := hlost.2
      rwa [FileSystem.get?_remove hroom.ne_nil, if_neg hnot] at hgone
  exact (FileSystem.Lost.before_or_after ⟨hlost.1, hgone⟩ _).resolve_right hkeeps.not_lost

/-- Staging makes no links. -/
theorem HasRoom.get?_of_staged_link {ρ : Type} {m : Machine ρ} (h : HasRoom m) {target : ByteString}
    (hlink : (staged r m).2.files.get? l = some (.link target)) : m.files.get? l = some (.link target) := by
  obtain ⟨hkept, hremove, -⟩ := kept_staged h r
  have hnot : ¬ m.scratch.isPrefixOf l = true := by
    rw [List.isPrefixOf_iff_prefix]
    intro hfront
    have hnone := hkept.links l hfront
    rw [hlink] at hnone
    cases hnone
  rw [← hremove, FileSystem.get?_remove h.ne_nil, if_neg hnot, hlink]

/-- **Where the directory of the checkout is** when it is emptied: where the steps of the subdirectory lead
from the output directory, unless a link is on their way. -/
theorem Clone.checkout_dir_descends {ρ : Type} {m : Machine ρ} {dir out : Location} {d : Entry}
    (hroom : HasRoom m) (hvalid : r.validate = .ok ())
    (hout : m.files.canonicalize m.workDir r.outputDir = .ok out)
    (hdir : (staged r m).2.files.locate m.workDir r.checkoutDir = .ok (dir, d)) :
    dir = out ++ Pathname.steps r.inner ∨ LinkOnWay m.files out (Pathname.steps r.inner) := by
  obtain ⟨-, hremove, -⟩ := kept_staged hroom r
  have hkeeps := FileSystem.keeps_of_remove hroom.ne_nil hremove
  have hout' : (staged r m).2.files.canonicalize m.workDir r.outputDir = .ok out := by
    obtain ⟨hpath, n, hn, htrail⟩ := FileSystem.canonicalize_eq_ok_iff.mp hout
    exact FileSystem.canonicalize_eq_ok_iff.mpr ⟨hpath, n, hn, htrail.keep hkeeps⟩
  obtain ⟨hrel, hup⟩ := r.inner_of_valid hvalid
  have hhere : LinkOnWay (staged r m).2.files out (Pathname.steps r.inner) →
      LinkOnWay m.files out (Pathname.steps r.inner) := by
    rintro ⟨front, target, hne, hfront, hlink⟩
    exact ⟨front, target, hne, hfront, hroom.get?_of_staged_link hlink⟩
  rw [CloneRequest.checkoutDir_eq] at hdir
  by_cases hinner : r.inner = ""
  · rw [if_pos hinner] at hdir
    have hsteps : Pathname.steps r.inner = [] := by
      rw [hinner]
      decide
    rw [FileSystem.eq_of_canonicalize hout' hdir, hsteps, List.append_nil]
    exact Or.inl rfl
  · rw [if_neg hinner] at hdir
    exact (FileSystem.locate_join_descends hrel hup hout' hdir).imp_right hhere

/-- **What a run removes.** Unless a request that is accepted asks for its directory of the checkout to be
emptied, nothing that was there before the run is missing at any call of git or in the end. If it asks for
that, what is missing was below the directory that the path name of the checkout leads to. It was below the
real path of the output directory as well, unless one of the names of the subdirectory, looked up from there,
is a link. -/
theorem lost_below_checkout_dir (policy : RetryPolicy) (r : CloneRequest) (m : Machine Script)
    (hroom : HasRoom m) (hvalid : r.validate = .ok ()) (fs : FileSystem) (hseen : Seen policy r m fs)
    (l : Location) (hlost : Lost m.files fs l) :
    r.deleteExisting = true ∧
      ∃ dir d, (staged r m).2.files.locate m.workDir r.checkoutDir = .ok (dir, d) ∧
        isBelow dir l = true ∧
        ∀ out, m.files.canonicalize m.workDir r.outputDir = .ok out →
          (dir = out ++ Pathname.steps r.inner ∧ isBelow out l = true) ∨
            LinkOnWay m.files out (Pathname.steps r.inner) := by
  obtain ⟨hdelete, dir, d, hdir, hbelow⟩ := lost_prepared hroom (hseen.lost hroom hvalid hlost)
  refine ⟨hdelete, dir, d, hdir, hbelow, fun out hout => ?_⟩
  refine (checkout_dir_descends hroom hvalid hout hdir).imp_left fun hdown => ⟨hdown, ?_⟩
  subst hdown
  exact FileSystem.isBelow_of_append hbelow

/-- A subdirectory of two names, with a file to be emptied in the second. -/
theorem lost_below_checkout_dir_of_two_names :
    let r := { CloneRequest.new "https://git.example/x" with
      outputDir := "out", subdirectory := some "a/./b", deleteExisting := true, enableSymlinkCheck := false }
    let m : Machine Script := { Machine.bare ⟨["work"], [], []⟩ with
      files := ⟨[(["work"], .dir 0o755), (["work", "out"], .link "store"), (["work", "store"], .dir 0o755),
        (["work", "store", "a"], .dir 0o755), (["work", "store", "a", "b"], .dir 0o755),
        (["work", "store", "a", "b", "old"], .file [0] 0o644)]⟩ }
    let fs := ((run (Git.client Script.runner .default) r).exec m).2.files
    let l : Location := ["work", "store", "a", "b", "old"]
    HasRoom m ∧ r.validate = .ok () ∧ Seen .default r m fs ∧ Lost m.files fs l ∧
      r.deleteExisting = true ∧
      ∃ dir d, (staged r m).2.files.locate m.workDir r.checkoutDir = .ok (dir, d) ∧
        isBelow dir l = true ∧
        ∀ out, m.files.canonicalize m.workDir r.outputDir = .ok out →
          (dir = out ++ Pathname.steps r.inner ∧ isBelow out l = true) ∨
            LinkOnWay m.files out (Pathname.steps r.inner) := by
  intro r m fs l
  have hroom : HasRoom m :=
    { named := by decide, reached := ⟨by decide, by decide⟩, short := by decide
      free := by rfl, empty := by rfl }
  have hvalid : r.validate = .ok () := by rfl
  have hgone : fs.get? l = none := by decide +kernel
  have hlost : Lost m.files fs l := ⟨by decide, hgone⟩
  exact ⟨hroom, hvalid, .left, hlost,
    lost_below_checkout_dir .default r m hroom hvalid fs .left l hlost⟩

/-- **A link under the name of the subdirectory** leads the run out of the output directory: what is emptied
is a directory beside it. -/
theorem lost_beside_output_dir_through_link :
    let r := { CloneRequest.new "https://git.example/x" with
      outputDir := "/work/out", subdirectory := some "link", deleteExisting := true
      enableSymlinkCheck := false }
    let m : Machine Script := { Machine.bare ⟨["work"], [], []⟩ with
      files := ⟨[(["work"], .dir 0o755), (["work", "out"], .dir 0o755),
        (["work", "out", "link"], .link "/work/other"), (["work", "other"], .dir 0o755),
        (["work", "other", "keep"], .file [107] 0o644)]⟩ }
    HasRoom m ∧ r.validate = .ok () ∧ r.deleteExisting = true ∧
      m.files.canonicalize m.workDir r.outputDir = .ok ["work", "out"] ∧
      Lost m.files ((run (Git.client Script.runner .default) r).exec m).2.files ["work", "other", "keep"] ∧
      ¬ ["work", "out"] <+: ["work", "other", "keep"] := by
  intro r m
  have hroom : HasRoom m :=
    { named := by decide, reached := ⟨by decide, by decide⟩, short := by decide
      free := by rfl, empty := by rfl }
  have hgone : ((run (Git.client Script.runner .default) r).exec m).2.files.get?
      ["work", "other", "keep"] = none := by decide +kernel
  have hout : m.files.canonicalize ["work"] "/work/out" = .ok ["work", "out"] := by rfl
  exact ⟨hroom, by rfl, by rfl, hout, ⟨by decide, hgone⟩, by decide⟩

end Whole

end Checkout
