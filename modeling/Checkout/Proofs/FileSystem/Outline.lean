import Checkout.Proofs.FileSystem.Sight
import Checkout.Proofs.Symlink.Survey

/-!
# Outlines

The outline of files is what is left of them without their contents. Files with the same outline have the
same names and links, and what stands at a location is of the same kind with the same permission bits.
Nothing can tell them apart but to read a file: path names lead to the same locations, changes succeed or
fail alike and lead to files with the same outline again, whatever contents they write, and an audit of
the links finds and reports the same.

Results:
* `Alike.locate`, `Alike.readBytes`: what is found in files with the same outline;
* `Alike.writeBytes`, `Alike.makeDirs`, `Alike.createAll`: what becomes of them;
* `Alike.audited_eq`, `Alike.auditRecords_eq`: what an audit says about them.
-/

namespace Checkout

/-- An entry without its content. -/
def Entry.outline (e : Entry) : Entry := e.mapContent fun _ => []

theorem Entry.isFile_eq_of_outline_eq {e e' : Entry} (h : e.outline = e'.outline) : e.isFile = e'.isFile :=
  isFile_mapContent.symm.trans ((congrArg isFile h).trans isFile_mapContent)

/-- Only names, links, kinds and permission bits are seen. -/
def View.outline : View where
  hidden _ := false
  content _ := []
  admits _ := True
  root := rfl
  up _ _ := rfl
  down _ _ _ _ := rfl
  dot := trivial

namespace FileSystem

variable {fs fs' : FileSystem} {here root : Location} {path : ByteString}

/-- The files without their contents. -/
def outline (fs : FileSystem) : FileSystem := ⟨fs.entries.map fun x => (x.1, x.2.outline)⟩

/-- File systems that only the contents of files tell apart. -/
def Alike (fs fs' : FileSystem) : Prop := fs.outline = fs'.outline

theorem see_outline (fs : FileSystem) : View.outline.see fs = fs.outline := by
  have hall : (fs.entries.filter fun x => !View.outline.hidden x.1) = fs.entries :=
    List.filter_eq_self.mpr fun _ _ => rfl
  unfold View.see outline
  rw [hall]
  rfl

theorem admitsPath_outline (path : ByteString) : View.outline.AdmitsPath path := fun _ _ => trivial

theorem visible_outline (l : Location) : View.outline.hidden l = false := rfl

theorem clear_outline (fs : FileSystem) : View.outline.Clear fs := fun _ _ _ _ => admitsPath_outline _

/-! ## What is seen in an outline -/

theorem childNames_outline (fs : FileSystem) (l : Location) : fs.outline.childNames l = fs.childNames l := by
  unfold childNames outline
  rw [List.filterMap_map]
  rfl

theorem listing_outline (fs : FileSystem) (root : Location) :
    fs.outline.listing root = (fs.listing root).map fun x => (x.1, x.2.outline) := by
  have hbelow : fs.outline.below root = (fs.below root).map fun x => (x.1, x.2.outline) := by
    unfold below outline
    rw [List.filter_map]
    rfl
  unfold listing
  rw [hbelow]
  symm
  exact List.map_mergeSort fun _ _ _ _ => rfl

theorem canonicalize_outline (fs : FileSystem) (here : Location) (path : ByteString) :
    fs.outline.canonicalize here path = fs.canonicalize here path := by
  have hwalk := (View.walk_see true hasShortPath maxLinks (clear_outline fs)
    (visible_outline (startOf here path)) (View.admitsPath_parts (admitsPath_outline path))).1
  rw [see_outline] at hwalk
  unfold canonicalize
  rw [hwalk]
  cases fs.walk true hasShortPath maxLinks (startOf here path) (Pathname.parts path) with
  | error e => rfl
  | ok place => cases place <;> rfl

end FileSystem

namespace SymlinkAudit

theorem survey_map {α β γ : Type} (g : γ → α) (find : α → Except Error (Option β) × List Record)
    (xs : List γ) : survey find (xs.map g) = survey (fun x => find (g x)) xs := by
  induction xs with
  | nil => rfl
  | cons x xs ih =>
    rw [List.map_cons, survey, survey, ih]

theorem scanned_outline (fs : FileSystem) (here : Location) (path : ByteString) :
    scanned fs.outline here path = scanned fs here path := by
  have hsight : ∀ root x, sight fs.outline here root path (x.1, x.2.outline) = sight fs here root path x := by
    intro root x
    obtain ⟨l, e⟩ := x
    cases e with
    | link target =>
      unfold sight linkSight fate
      rw [FileSystem.canonicalize_outline]
      rfl
    | file content mode => rfl
    | dir mode => rfl
    | device => rfl
  unfold scanned
  rw [FileSystem.canonicalize_outline]
  cases fs.canonicalize here path with
  | error e => rfl
  | ok root =>
    cases entered path with
    | error e => rfl
    | ok _ =>
      dsimp only
      rw [FileSystem.listing_outline, survey_map]
      congr 1
      exact funext (hsight root)

end SymlinkAudit

namespace FileSystem

namespace Alike

variable {fs fs' : FileSystem}

theorem see_eq (h : Alike fs fs') : View.outline.see fs = View.outline.see fs' := by
  rw [see_outline, see_outline, h]

theorem of_see_eq (h : View.outline.see fs = View.outline.see fs') : Alike fs fs' := by
  rw [see_outline, see_outline] at h
  exact h

/-! ## What is found -/

theorem map_locate (h : Alike fs fs') (here : Location) (path : ByteString) :
    (fs.locate here path).map (fun x => (x.1, x.2.outline)) =
      (fs'.locate here path).map fun x => (x.1, x.2.outline) := by
  have hfs := View.locate_see (clear_outline fs) (visible_outline here) (admitsPath_outline path)
  have hfs' := View.locate_see (clear_outline fs') (visible_outline here) (admitsPath_outline path)
  rw [h.see_eq] at hfs
  exact hfs.symm.trans hfs'

/-- **A path name leads to the same location**, and what stands there has the same outline. -/
theorem locate (h : Alike fs fs') (here : Location) (path : ByteString) :
    (∃ e, fs.locate here path = .error e ∧ fs'.locate here path = .error e) ∨
      ∃ l e e', fs.locate here path = .ok (l, e) ∧ fs'.locate here path = .ok (l, e') ∧
        e.outline = e'.outline := by
  have hsame := h.map_locate here path
  cases hl : fs.locate here path with
  | error e =>
    rw [hl] at hsame
    cases hl' : fs'.locate here path with
    | error e' =>
      rw [hl'] at hsame
      cases hsame
      exact Or.inl ⟨e, rfl, rfl⟩
    | ok x =>
      rw [hl'] at hsame
      cases hsame
  | ok x =>
    rw [hl] at hsame
    cases hl' : fs'.locate here path with
    | error e' =>
      rw [hl'] at hsame
      cases hsame
    | ok x' =>
      rw [hl'] at hsame
      obtain ⟨hloc, he⟩ := Prod.mk.inj (Except.ok.inj hsame)
      exact Or.inr ⟨x.1, x.2, x'.2, rfl, by rw [hloc], he⟩

theorem pathExists_eq (h : Alike fs fs') (here : Location) (path : ByteString) :
    fs.pathExists here path = fs'.pathExists here path := by
  unfold pathExists
  obtain ⟨e, hl, hl'⟩ | ⟨l, e, e', hl, hl', -⟩ := h.locate here path
  · rw [hl, hl']
  · rw [hl, hl']
    rfl

theorem isFile_eq (h : Alike fs fs') (here : Location) (path : ByteString) :
    fs.isFile here path = fs'.isFile here path := by
  unfold isFile
  obtain ⟨e, hl, hl'⟩ | ⟨l, e, e', hl, hl', he⟩ := h.locate here path
  · rw [hl, hl']
  · rw [hl, hl']
    exact Entry.isFile_eq_of_outline_eq he

theorem childNames_eq (h : Alike fs fs') (l : Location) : fs.childNames l = fs'.childNames l := by
  rw [← childNames_outline fs, ← childNames_outline fs', h]

theorem listDir_eq (h : Alike fs fs') (here : Location) (path : ByteString) :
    fs.listDir here path = fs'.listDir here path := by
  unfold listDir
  obtain ⟨e, hl, hl'⟩ | ⟨l, e, e', hl, hl', he⟩ := h.locate here path
  · rw [hl, hl']
  · rw [hl, hl']
    cases e <;> cases e' <;> first | exact congrArg Except.ok (h.childNames_eq l) | rfl | cases he

theorem locations_eq (h : Alike fs fs') : fs.entries.map Prod.fst = fs'.entries.map Prod.fst := by
  have hforget : ∀ fs : FileSystem, fs.outline.entries.map Prod.fst = fs.entries.map Prod.fst := fun fs =>
    List.map_map
  rw [← hforget fs, ← hforget fs', h]

/-- The names are the same. -/
theorem named (h : Alike fs fs') (hnamed : fs.Named) : fs'.Named := by
  intro x hx
  have hmem : x.1 ∈ fs.entries.map Prod.fst := h.locations_eq ▸ List.mem_map_of_mem hx
  obtain ⟨y, hy, hsame⟩ := List.mem_map.mp hmem
  exact hsame ▸ hnamed y hy

theorem below_eq_nil (h : Alike fs fs') {l : Location} (hempty : fs.below l = []) : fs'.below l = [] := by
  refine List.filter_eq_nil_iff.mpr fun x hx => ?_
  have hmem : x.1 ∈ fs.entries.map Prod.fst := h.locations_eq ▸ List.mem_map_of_mem hx
  obtain ⟨y, hy, hsame⟩ := List.mem_map.mp hmem
  have hold : ¬ isBelow l y.1 = true := List.filter_eq_nil_iff.mp hempty y hy
  rw [hsame] at hold
  exact hold

theorem any_isDir_eq (h : Alike fs fs') (l : Location) :
    (fs.get? l).any Entry.isDir = (fs'.get? l).any Entry.isDir := by
  rw [← View.any_isDir_see (visible_outline l), h.see_eq, View.any_isDir_see (visible_outline l)]

theorem get?_eq_none (h : Alike fs fs') {l : Location} (hfree : fs.get? l = none) : fs'.get? l = none := by
  have hseen : ∀ fs : FileSystem, (View.outline.see fs).get? l = (fs.get? l).map Entry.outline := fun fs =>
    View.get?_see_of_visible (visible_outline l)
  have hright := hseen fs'
  rw [← h.see_eq, hseen, hfree] at hright
  exact Option.map_eq_none_iff.mp hright.symm

/-- A file can be read in both or in none. -/
theorem readBytes (h : Alike fs fs') (here : Location) (path : ByteString) :
    (fs.readBytes here path).map (fun _ => ()) = (fs'.readBytes here path).map fun _ => () := by
  unfold FileSystem.readBytes
  obtain ⟨e, hl, hl'⟩ | ⟨l, e, e', hl, hl', he⟩ := h.locate here path
  · rw [hl, hl']
  · rw [hl, hl']
    cases e <;> cases e' <;> first | rfl | cases he

/-- A file that is text in both can be read as text in both or in none. -/
theorem readText (h : Alike fs fs') {here : Location} {path : ByteString}
    (htext : fs.readText here path ≠ .error .notText) (htext' : fs'.readText here path ≠ .error .notText) :
    (fs.readText here path).map (fun _ => ()) = (fs'.readText here path).map fun _ => () := by
  have hbytes := h.readBytes here path
  unfold FileSystem.readText at htext htext' ⊢
  cases hr : fs.readBytes here path with
  | error e =>
    rw [hr] at hbytes
    cases hr' : fs'.readBytes here path with
    | error e' =>
      rw [hr'] at hbytes
      cases hbytes
      rfl
    | ok content =>
      rw [hr'] at hbytes
      cases hbytes
  | ok content =>
    rw [hr] at hbytes htext
    cases hr' : fs'.readBytes here path with
    | error e' =>
      rw [hr'] at hbytes
      cases hbytes
    | ok content' =>
      rw [hr'] at htext'
      simp only [bind, Except.bind] at htext htext' ⊢
      cases hd : Text.decode? content with
      | none => simp [hd] at htext
      | some s =>
        cases hd' : Text.decode? content' with
        | none => simp [hd'] at htext'
        | some s' => rfl

/-! ## What becomes of them -/

/-- **Files with whatever contents are written alike.** -/
theorem writeBytes (h : Alike fs fs') (here : Location) (path : ByteString) (content content' : List UInt8) :
    (fs.writeBytes here path content).map outline = (fs'.writeBytes here path content').map outline := by
  have hfs := (View.writeBytes_see (clear_outline fs) (visible_outline here)
    (admitsPath_outline path) content).1
  have hfs' := (View.writeBytes_see (clear_outline fs') (visible_outline here)
    (admitsPath_outline path) content').1
  rw [h.see_eq] at hfs
  have hsame := hfs.symm.trans hfs'
  rwa [show View.outline.see = outline from funext see_outline] at hsame

theorem setMode (h : Alike fs fs') (here : Location) (path : ByteString) (mode : Nat) :
    (fs.setMode here path mode).map outline = (fs'.setMode here path mode).map outline := by
  have hfs := (View.setMode_see (clear_outline fs) (visible_outline here)
    (admitsPath_outline path) mode).1
  have hfs' := (View.setMode_see (clear_outline fs') (visible_outline here)
    (admitsPath_outline path) mode).1
  rw [h.see_eq] at hfs
  have hsame := hfs.symm.trans hfs'
  rwa [show View.outline.see = outline from funext see_outline] at hsame

theorem makeDirs (h : Alike fs fs') (here : Location) (path : ByteString) :
    Alike (fs.makeDirs here path).1 (fs'.makeDirs here path).1 ∧
      (fs.makeDirs here path).2 = (fs'.makeDirs here path).2 := by
  have hfs := (View.makeDirs_see (clear_outline fs) (visible_outline here) (admitsPath_outline path)).1
  have hfs' := (View.makeDirs_see (clear_outline fs') (visible_outline here) (admitsPath_outline path)).1
  rw [h.see_eq] at hfs
  obtain ⟨hfiles, hfailure⟩ := Prod.mk.inj (hfs.symm.trans hfs')
  exact ⟨of_see_eq hfiles, hfailure⟩

theorem put (h : Alike fs fs') (l : Location) (e : Entry) : Alike (fs.put l e) (fs'.put l e) := by
  refine of_see_eq ?_
  rw [View.see_put (visible_outline l), View.see_put (visible_outline l), h.see_eq]

theorem remove (h : Alike fs fs') (l : Location) : Alike (fs.remove l) (fs'.remove l) := by
  refine of_see_eq ?_
  rw [View.see_remove, View.see_remove, h.see_eq]

/-- **Entries are removed alike.** -/
theorem removeEntry (h : Alike fs fs') (here : Location) (isDir : Bool) (path : ByteString) :
    (fs.removeEntry here isDir path).map outline = (fs'.removeEntry here isDir path).map outline := by
  have hfs := View.removeEntry_see (clear_outline fs) (visible_outline here) (admitsPath_outline path) isDir
  have hfs' := View.removeEntry_see (clear_outline fs') (visible_outline here) (admitsPath_outline path) isDir
  rw [h.see_eq] at hfs
  have hsame := hfs.symm.trans hfs'
  rwa [show View.outline.see = outline from funext see_outline] at hsame

theorem createAll (h : Alike fs fs') (here : Location) (xs : List Fixture) :
    Alike (Fixture.createAll here fs xs) (Fixture.createAll here fs' xs) := by
  have hxs : ∀ x ∈ xs, View.outline.AdmitsFixture x :=
    fun _ _ => ⟨admitsPath_outline _, fun _ _ => admitsPath_outline _⟩
  have hfs := (View.createAll_see (clear_outline fs) (visible_outline here) hxs).1
  have hfs' := (View.createAll_see (clear_outline fs') (visible_outline here) hxs).1
  rw [h.see_eq] at hfs
  exact of_see_eq (hfs.symm.trans hfs')

/-! ## What an audit says -/

theorem scanned_eq (h : Alike fs fs') (here : Location) (path : ByteString) :
    SymlinkAudit.scanned fs here path = SymlinkAudit.scanned fs' here path := by
  rw [← SymlinkAudit.scanned_outline fs, ← SymlinkAudit.scanned_outline fs', h]

theorem audited_eq (h : Alike fs fs') (here : Location) (path : ByteString) :
    SymlinkAudit.audited fs here path = SymlinkAudit.audited fs' here path := by
  unfold SymlinkAudit.audited
  rw [h.scanned_eq]

theorem auditRecords_eq (h : Alike fs fs') (here : Location) (path : ByteString) :
    SymlinkAudit.auditRecords fs here path = SymlinkAudit.auditRecords fs' here path := by
  unfold SymlinkAudit.auditRecords
  rw [h.scanned_eq, h.audited_eq]

end Alike

end FileSystem

end Checkout
