import Checkout.Proofs.FileSystem.Sight

/-!
# Files that only grow

The operations that write and what a script creates take nothing away: whatever was found before is found
again. When only files were written, the converse holds of everything that is no file: if it is found, then
it was found before (`Wrote`).

Results:
* `keeps_makeDirs`, `keeps_createAll`: everything is still there;
* `Wrote.locate`: what is found and is no file was found there before.
-/

namespace Checkout

namespace View

/-- The view that shows everything as it is. -/
def whole : View where
  hidden := fun _ => false
  content := id
  admits := fun _ => True
  root := rfl
  up := fun _ _ => rfl
  down := fun _ _ _ _ => rfl
  dot := trivial

theorem whole_admitsPath (path : ByteString) : whole.AdmitsPath path := fun _ _ => trivial

theorem whole_clear (fs : FileSystem) : whole.Clear fs := fun _ target _ _ => whole_admitsPath target

end View

namespace FileSystem

variable {fs fs' fs'' : FileSystem} {here l : Location} {path : ByteString} {e : Entry}

/-! ## Nothing is taken away -/

theorem keeps_writeBytes {content : List UInt8} (h : fs.writeBytes here path content = .ok fs') :
    Keeps fs fs' := by
  obtain ⟨-, hgrown⟩ := View.writeBytes_see (View.whole_clear fs) (rfl : View.whole.hidden here = false)
    (View.whole_admitsPath path) content
  exact (hgrown fs' h).keeps

theorem keeps_setMode {mode : Nat} (h : fs.setMode here path mode = .ok fs') : Keeps fs fs' := by
  obtain ⟨-, hgrown⟩ := View.setMode_see (View.whole_clear fs) (rfl : View.whole.hidden here = false)
    (View.whole_admitsPath path) mode
  exact (hgrown fs' h).keeps

/-- Making directories keeps everything, also where it fails. -/
theorem keeps_makeDirs (fs : FileSystem) (here : Location) (path : ByteString) :
    Keeps fs (fs.makeDirs here path).1 := by
  obtain ⟨-, hgrown⟩ := View.makeDirs_see (View.whole_clear fs) (rfl : View.whole.hidden here = false)
    (View.whole_admitsPath path)
  exact hgrown.keeps

/-- **What a script creates** is put beside what is there. -/
theorem keeps_createAll (fs : FileSystem) (base : Location) (xs : List Fixture) :
    Keeps fs (Fixture.createAll base fs xs) := by
  have hadmits : ∀ x ∈ xs, View.whole.AdmitsFixture x := fun x _ =>
    ⟨View.whole_admitsPath x.path, fun target _ => View.whole_admitsPath target⟩
  obtain ⟨-, hgrown⟩ := View.createAll_see (View.whole_clear fs) (rfl : View.whole.hidden base = false) hadmits
  exact hgrown.keeps

theorem Keeps.pathExists (h : Keeps fs fs') (hexists : fs.pathExists here path = true) :
    fs'.pathExists here path = true := by
  obtain ⟨l, e, hfound⟩ := pathExists_iff.mp hexists
  obtain ⟨e', hfound', -⟩ := h.locate hfound
  exact pathExists_iff.mpr ⟨l, e', hfound'⟩

/-! ## Only files are new -/

/-- Only files were written: everything is still there as the kind of entry that it was, and what is no
file was there before. -/
structure Wrote (fs fs' : FileSystem) : Prop where
  keeps : Keeps fs fs'
  old : ∀ l e, fs'.get? l = some e → e.isFile = false → ∃ e', fs.get? l = some e' ∧ e'.kind = e.kind

theorem Wrote.refl (fs : FileSystem) : Wrote fs fs := ⟨.refl fs, fun _ e he _ => ⟨e, he, rfl⟩⟩

theorem Wrote.trans (h : Wrote fs fs') (h' : Wrote fs' fs'') : Wrote fs fs'' := by
  refine ⟨h.keeps.trans h'.keeps, fun l e he hfile => ?_⟩
  obtain ⟨e', he', hkind'⟩ := h'.old l e he hfile
  have hfile' : e'.isFile = false := (Entry.isFile_of_kind_eq hkind').trans hfile
  obtain ⟨e'', he'', hkind⟩ := h.old l e' he' hfile'
  exact ⟨e'', he'', hkind.trans hkind'⟩

/-- A file was put somewhere, if anything. -/
theorem writeBytes_eq_ok {content : List UInt8} (h : fs.writeBytes here path content = .ok fs') :
    fs' = fs ∨ ∃ l mode, fs' = fs.put l (.file content mode) := by
  unfold writeBytes at h
  split at h
  · split at h
    · cases h
    · cases h
      exact Or.inr ⟨_, _, rfl⟩
  · cases h
  · cases h
    exact Or.inl rfl
  · cases h
    exact Or.inr ⟨_, _, rfl⟩
  · split at h <;> cases h
  · split at h
    · split at h <;> cases h
    · cases h
  · cases h

/-- What is no file was there before an entry was put somewhere, if that is a file or of the kind that was
there. -/
theorem get?_of_put {x : Entry} (hx : x.isFile = false → ∃ old, fs.get? l = some old ∧ old.kind = x.kind)
    (at_ : Location) (e : Entry) (he : (fs.put l x).get? at_ = some e) (hfile : e.isFile = false) :
    ∃ e', fs.get? at_ = some e' ∧ e'.kind = e.kind := by
  by_cases hat : at_ = l
  · subst hat
    by_cases hroot : at_ = []
    · subst hroot
      exact ⟨e, by simpa [get?] using he, rfl⟩
    · rw [get?_put_self hroot, Option.some.injEq] at he
      subst he
      exact hx hfile
  · rw [get?_put_of_ne hat] at he
    exact ⟨e, he, rfl⟩

theorem wrote_writeBytes {content : List UInt8} (h : fs.writeBytes here path content = .ok fs') :
    Wrote fs fs' := by
  refine ⟨keeps_writeBytes h, ?_⟩
  obtain rfl | ⟨l, mode, rfl⟩ := writeBytes_eq_ok h
  · intro l e he _
    exact ⟨e, he, rfl⟩
  · exact get?_of_put fun hnot => by cases hnot

theorem wrote_setMode {mode : Nat} (h : fs.setMode here path mode = .ok fs') : Wrote fs fs' := by
  refine ⟨keeps_setMode h, ?_⟩
  unfold setMode at h
  cases hfound : fs.locate here path with
  | error err =>
    rw [hfound] at h
    cases h
  | ok found =>
    obtain ⟨l, old⟩ := found
    rw [hfound] at h
    cases h
    obtain ⟨-, hold, -⟩ := locate_eq_ok_iff.mp hfound
    exact get?_of_put fun _ => ⟨old, hold, (Entry.kind_withMode mode old).symm⟩

/-- A trail begins at a directory, unless it ends where it begins. -/
theorem Trail.start_eq_or_isDir {admits : Location → Bool} {n : Nat} {names : List ByteString}
    (h : Trail fs admits n here names l) :
    here = l ∨ (fs.get? here).any Entry.isDir = true := by
  cases h with
  | stop _ => exact Or.inl rfl
  | stay _ hdir _ => exact Or.inr hdir
  | up _ hdir _ => exact Or.inr hdir
  | down hasks _ _ _ => exact Or.inr hasks.isDir
  | link hasks _ _ _ => exact Or.inr hasks.isDir

namespace Wrote

variable {admits : Location → Bool} {n : Nat} {names : List ByteString}

theorem any_isDir (h : Wrote fs fs') (hdir : (fs'.get? l).any Entry.isDir = true) :
    (fs.get? l).any Entry.isDir = true := by
  cases he : fs'.get? l with
  | none => simp [he] at hdir
  | some e =>
    rw [he, Option.any_some] at hdir
    have hfile : e.isFile = false := by
      cases e <;> first | rfl | cases hdir
    obtain ⟨e', he', hkind⟩ := h.old l e he hfile
    rw [he', Option.any_some, Entry.isDir_of_kind_eq hkind, hdir]

/-- **A trail to what is no file** was there before. -/
theorem trail (h : Wrote fs fs') (htrail : Trail fs' admits n here names l) (he : fs'.get? l = some e)
    (hfile : e.isFile = false) : Trail fs admits n here names l := by
  have hasks : ∀ {dir name}, Asks fs' admits dir name → Asks fs admits dir name :=
    fun ha => { ha with isDir := h.any_isDir ha.isDir }
  induction htrail with
  | stop _ =>
    obtain ⟨e', he', -⟩ := h.old _ e he hfile
    exact .stop he'
  | stay hname hdir _ ih => exact .stay hname (h.any_isDir hdir) (ih he)
  | up hname hdir _ ih => exact .up hname (h.any_isDir hdir) (ih he)
  | @down n here l name rest mid ha hmid hlink hrest ih =>
    -- On the way there are directories, so what is passed here is no file either.
    have hmidFile : mid.isFile = false := by
      rcases hrest.start_eq_or_isDir with heq | hdir
      · rw [heq, he, Option.some.injEq] at hmid
        exact hmid ▸ hfile
      · rw [hmid, Option.any_some] at hdir
        cases mid <;> first | rfl | cases hdir
    obtain ⟨old, hold, hkind⟩ := h.old _ mid hmid hmidFile
    exact .down (hasks ha) hold ((Entry.isLink_of_kind_eq hkind).trans hlink) (ih he)
  | link ha htarget hpath _ ih =>
    obtain ⟨old, hold, hkind⟩ := h.old _ _ htarget rfl
    exact .link (hasks ha) (Entry.eq_link_of_kind_eq hkind ▸ hold) hpath (ih he)

/-- **What is found and is no file** was found before. -/
theorem locate (h : Wrote fs fs') (hfound : fs'.locate here path = .ok (l, e))
    (hfile : e.isFile = false) : ∃ e', fs.locate here path = .ok (l, e') ∧ e'.kind = e.kind := by
  obtain ⟨haskable, he, n, hn, htrail⟩ := locate_eq_ok_iff.mp hfound
  obtain ⟨e', he', hkind⟩ := h.old l e he hfile
  exact ⟨e', locate_eq_ok_iff.mpr ⟨haskable, he', n, hn, h.trail htrail he hfile⟩, hkind⟩

end Wrote

end FileSystem

end Checkout
