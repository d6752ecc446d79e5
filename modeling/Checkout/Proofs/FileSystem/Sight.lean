import Checkout.Process.Scripted
import Checkout.Proofs.FileSystem.View

/-!
# Changes in sight

The operations that change files make the same change to what is seen, as long as the names that they
follow do not lead to what is hidden, and they only let the files grow where they can be seen. This goes
for whatever is created by a script, too.

Results:
* `makeDirs_see`, `writeBytes_see`, `setMode_see`: the operations;
* `createAll_see`: what a script creates.
-/

namespace Checkout

namespace View

open FileSystem (Place)

variable {v : View} {fs fs' : FileSystem} {l here : Location} {path : ByteString} {mode : Nat}

/-- A change is made to what is seen as to the files, and lets these grow in sight. -/
def Tracks (v : View) (fs : FileSystem) (changed seen : Except IoError FileSystem) : Prop :=
  seen = changed.map v.see ∧ ∀ fs', changed = .ok fs' → v.Grown fs fs'

theorem tracks_error (e : IoError) : v.Tracks fs (.error e) (.error e) := ⟨rfl, fun _ h => by cases h⟩

theorem tracks_same : v.Tracks fs (.ok fs) (.ok (v.see fs)) := ⟨rfl, fun _ h => by cases h; exact .refl⟩

/-- An entry that is no link is put in sight, in a free place or in that of an entry of its kind. -/
theorem tracks_put {e : Entry} (hl : v.hidden l = false)
    (hkind : ∀ old, fs.get? l = some old → e.kind = old.kind) (hlink : e.isLink = false) :
    v.Tracks fs (.ok (fs.put l e)) (.ok ((v.see fs).put l (e.mapContent v.content))) := by
  refine ⟨?_, fun fs' h => by cases h; exact .single hl hkind hlink⟩
  rw [← see_put hl]
  rfl

theorem admitsPath_bare (h : v.AdmitsPath path) : v.AdmitsPath (Pathname.bare path) := by
  unfold AdmitsPath
  rwa [Pathname.names_bare]

theorem admitsPath_parent {parent : ByteString} (h : v.AdmitsPath path)
    (hparent : Pathname.parent? path = some parent) : v.AdmitsPath parent :=
  fun name hname => h name ((Pathname.names_parent hparent).subset hname)

/-! ## Operations -/

section Operations

variable (hclear : v.Clear fs) (hhere : v.hidden here = false) (hpath : v.AdmitsPath path)

include hclear hhere hpath

theorem isFile_see : (v.see fs).isFile here path = fs.isFile here path := by
  unfold FileSystem.isFile
  rw [locate_see hclear hhere hpath]
  cases fs.locate here path <;> simp [Except.map]

theorem isDir_see : (v.see fs).isDir here path = fs.isDir here path := by
  unfold FileSystem.isDir
  rw [locate_see hclear hhere hpath]
  cases fs.locate here path <;> simp [Except.map]

theorem setMode_see (mode : Nat) :
    v.Tracks fs (fs.setMode here path mode) ((v.see fs).setMode here path mode) := by
  unfold FileSystem.setMode
  rw [locate_see hclear hhere hpath]
  cases hfound : fs.locate here path with
  | error e => exact tracks_error e
  | ok x =>
    obtain ⟨l, e⟩ := x
    obtain ⟨hvisible, he⟩ :=
      (resolve_see true hclear hhere hpath).2 _ (FileSystem.locate_eq_ok.mp hfound)
    have hkind : ∀ old, fs.get? l = some old → (e.withMode mode).kind = old.kind := by
      intro old hold
      rw [he] at hold
      cases hold
      exact Entry.kind_withMode mode e
    refine ⟨?_, fun fs' h => ?_⟩
    · change Except.ok ((v.see fs).put l ((e.mapContent v.content).withMode mode)) = _
      rw [← Entry.mapContent_withMode, ← see_put hvisible]
      rfl
    · cases h
      refine .put .refl hvisible hkind fun target htarget => hclear l target hvisible ?_
      rw [he]
      cases e <;> simp_all [Entry.withMode]

theorem writeBytes_see (content : List UInt8) :
    v.Tracks fs (fs.writeBytes here path content)
      ((v.see fs).writeBytes here path (v.content content)) := by
  obtain ⟨hresolve, hsight⟩ := resolve_see true hclear hhere hpath
  unfold FileSystem.writeBytes
  rw [hresolve]
  cases hr : fs.resolve here true path with
  | error e =>
    have hisFile := isFile_see hclear hhere (admitsPath_bare hpath)
    have hbare := (resolve_see true hclear hhere (admitsPath_bare hpath)).1
    cases e with
    | os errno =>
      cases errno with
      | notDirectory =>
        simp only [Except.map, hisFile]
        by_cases hfile : (Pathname.endsWithSlash path && fs.isFile here (Pathname.bare path)) = true
        · rw [if_pos hfile]
          exact tracks_error _
        · rw [if_neg hfile]
          exact tracks_error _
      | noEntry =>
        simp only [Except.map, hbare]
        by_cases hends : Pathname.endsWithSlash path = true
        · rw [if_pos hends, if_pos hends]
          cases fs.resolve here true (Pathname.bare path) with
          | error e => exact tracks_error _
          | ok place => cases place <;> exact tracks_error _
        · rw [if_neg hends, if_neg hends]
          exact tracks_error _
      | _ => exact tracks_error _
    | _ => exact tracks_error _
  | ok place =>
    have hplace := hsight _ hr
    cases place with
    | vacant dir name =>
      refine tracks_put hplace.1 (fun old hold => ?_) rfl
      rw [hplace.2] at hold
      cases hold
    | entry l e =>
      cases e with
      | file old mode =>
        simp only [Except.map, seePlace, Entry.mapContent]
        by_cases hends : Pathname.endsWithSlash path = true
        · rw [if_pos hends, if_pos hends]
          exact tracks_error _
        · rw [if_neg hends, if_neg hends]
          refine tracks_put hplace.1 (fun old' hold => ?_) rfl
          rw [hplace.2] at hold
          cases hold
          rfl
      | dir mode => exact tracks_error _
      | link target => exact tracks_same
      | device => exact tracks_same

theorem makeDir_see : v.Tracks fs (fs.makeDir here path) ((v.see fs).makeDir here path) := by
  have hadmitted : v.AdmitsPath (Pathname.withoutSlash path) := by
    unfold Pathname.withoutSlash
    split
    · exact hpath
    · exact admitsPath_bare hpath
  obtain ⟨hresolve, hsight⟩ := resolve_see false hclear hhere hadmitted
  unfold FileSystem.makeDir
  rw [hresolve]
  cases hr : fs.resolve here false _ with
  | error e => exact tracks_error e
  | ok place =>
    have hplace := hsight _ hr
    cases place with
    | entry l e => exact tracks_error _
    | vacant dir name =>
      refine tracks_put hplace.1 (fun old hold => ?_) rfl
      rw [hplace.2] at hold
      cases hold

theorem makeLastDir_see : v.Tracks fs (fs.makeLastDir here path) ((v.see fs).makeLastDir here path) := by
  obtain ⟨hmake, hgrown⟩ := makeDir_see hclear hhere hpath
  unfold FileSystem.makeLastDir
  rw [hmake, isDir_see hclear hhere hpath]
  cases hr : fs.makeDir here path with
  | ok made => exact ⟨rfl, fun fs' h => by cases h; exact hgrown _ hr⟩
  | error e =>
    simp only [Except.map]
    by_cases hdir : fs.isDir here path = true
    · rw [if_pos hdir, if_pos hdir]
      exact tracks_same
    · rw [if_neg hdir, if_neg hdir]
      exact tracks_error e

/-- **Entries are removed** from what is seen as from the files. -/
theorem removeEntry_see (isDir : Bool) :
    (v.see fs).removeEntry here isDir path = (fs.removeEntry here isDir path).map v.see := by
  obtain ⟨hresolve, -⟩ := resolve_see false hclear hhere hpath
  unfold FileSystem.removeEntry FileSystem.removeFile FileSystem.removeDirAll
  rw [hresolve]
  cases hr : fs.resolve here false path with
  | error e => cases isDir <;> rfl
  | ok place =>
    cases place with
    | vacant dir name => cases isDir <;> rfl
    | entry l e =>
      cases isDir with
      | false => cases e <;> first | rfl | exact congrArg Except.ok see_remove.symm
      | true =>
        cases e with
        | file _ _ => rfl
        | link _ => exact congrArg Except.ok see_remove.symm
        | device => rfl
        | dir mode =>
          obtain ⟨hagain, -⟩ := resolve_see false (hclear.removeBelow l) hhere hpath
          simp only [Except.map, seePlace, Entry.mapContent, if_true]
          rw [← see_removeBelow, hagain]
          cases (fs.removeBelow l).resolve here false path with
          | error e => rfl
          | ok place =>
            cases place with
            | vacant dir name => rfl
            | entry l e => exact congrArg Except.ok see_remove.symm

end Operations

/-- A change that may fail half-way is made to what is seen as to the files. -/
def TracksAll (v : View) (fs : FileSystem) (changed seen : FileSystem × Option IoError) : Prop :=
  seen = (v.see changed.1, changed.2) ∧ v.Grown fs changed.1

theorem tracksAll_same (o : Option IoError) : v.TracksAll fs (fs, o) (v.see fs, o) := ⟨rfl, .refl⟩

/-- **Directories are made** alike, parent by parent. -/
theorem makeDirsFrom_see (hclear : v.Clear fs) (hhere : v.hidden here = false)
    (hpath : v.AdmitsPath path) (fuel : Nat) :
    v.TracksAll fs (FileSystem.makeDirsFrom here fuel fs path)
      (FileSystem.makeDirsFrom here fuel (v.see fs) path) := by
  induction fuel generalizing fs path with
  | zero => exact tracksAll_same _
  | succ fuel ih =>
    unfold FileSystem.makeDirsFrom
    by_cases hempty : path = ""
    · rw [if_pos hempty, if_pos hempty]
      exact tracksAll_same _
    rw [if_neg hempty, if_neg hempty]
    obtain ⟨hmake, hgrown⟩ := makeDir_see hclear hhere hpath
    rw [hmake, isDir_see hclear hhere hpath]
    cases hr : fs.makeDir here path with
    | ok made => exact ⟨rfl, hgrown _ hr⟩
    | error e =>
      simp only [Except.map]
      split
      · rename_i heq
        cases heq
      · -- What leads to the directory is missing, so it is made first.
        cases hparent : Pathname.parent? path with
        | none => exact tracksAll_same _
        | some parent =>
          obtain ⟨hparents, hfirst⟩ := ih hclear (admitsPath_parent hpath hparent)
          dsimp only
          rw [hparents]
          cases hmade : FileSystem.makeDirsFrom here fuel fs parent with
          | mk made failure =>
            rw [hmade] at hfirst
            cases failure with
            | some e => exact ⟨rfl, hfirst⟩
            | none =>
              obtain ⟨hlast, hlater⟩ := makeLastDir_see (hfirst.clear hclear) hhere hpath
              dsimp only
              rw [hlast]
              cases hr : made.makeLastDir here path with
              | ok whole => exact ⟨rfl, hfirst.trans (hlater _ hr)⟩
              | error e => exact ⟨rfl, hfirst⟩
      · by_cases hdir : fs.isDir here path = true
        · rw [if_pos hdir, if_pos hdir]
          exact tracksAll_same _
        · rw [if_neg hdir, if_neg hdir]
          exact tracksAll_same _

theorem makeDirs_see (hclear : v.Clear fs) (hhere : v.hidden here = false) (hpath : v.AdmitsPath path) :
    v.TracksAll fs (fs.makeDirs here path) ((v.see fs).makeDirs here path) :=
  makeDirsFrom_see hclear hhere hpath _

end View

/-! ## What a script creates -/

namespace FileSystem

/-- The files after a change, or as they were if it failed. -/
def orSame (fs : FileSystem) : Except IoError FileSystem → FileSystem
  | .ok made => made
  | .error _ => fs

/-- The files with a link where nothing stands. -/
def placeLink (fs : FileSystem) (here : Location) (path target : ByteString) : FileSystem :=
  match fs.resolve here false path with
  | .ok (.vacant dir name) => fs.put (dir ++ [name]) (.link target)
  | _ => fs

/-- The files with other permission bits where they matter. -/
def chmod (fs : FileSystem) (here : Location) (path : ByteString) : Option Nat → FileSystem
  | none => fs
  | some mode => fs.orSame (fs.setMode here path mode)

/-- The files with the directories that lead to a path name. -/
def makeWay (fs : FileSystem) (here : Location) (path : ByteString) : FileSystem :=
  (fs.makeDirs here ((Pathname.parent? path).getD "")).1

end FileSystem

/-- A fixture is created step by step. -/
theorem Fixture.create_eq (here : Location) (fs : FileSystem) (x : Fixture) :
    Fixture.create here fs x =
      (match x.kind with
        | .dir => (fs.makeDirs here x.path).1
        | .file content =>
          (fs.makeWay here x.path).orSame ((fs.makeWay here x.path).writeBytes here x.path content)
        | .link target => (fs.makeWay here x.path).placeLink here x.path target).chmod here x.path x.mode := by
  obtain ⟨path, kind, mode⟩ := x
  cases kind <;> cases mode <;> rfl

namespace View

variable {v : View} {fs fs' : FileSystem} {l here : Location} {path : ByteString}

/-- What is created, as it is seen. -/
def seeFixture (v : View) (x : Fixture) : Fixture :=
  match x.kind with
  | .file content => { x with kind := .file (v.content content) }
  | _ => x

/-- No name of what is created leads to what is hidden. -/
def AdmitsFixture (v : View) (x : Fixture) : Prop :=
  v.AdmitsPath x.path ∧ ∀ target, x.kind = .link target → v.AdmitsPath target

/-- A change that is left out where it fails. -/
theorem Tracks.orSame {changed seen : Except IoError FileSystem} (h : v.Tracks fs changed seen) :
    (v.see fs).orSame seen = v.see (fs.orSame changed) ∧ v.Grown fs (fs.orSame changed) := by
  obtain ⟨rfl, hgrown⟩ := h
  cases changed with
  | ok made => exact ⟨rfl, hgrown made rfl⟩
  | error e => exact ⟨rfl, .refl⟩

section Fixtures

variable (hclear : v.Clear fs) (hhere : v.hidden here = false)

include hclear hhere

theorem makeWay_see (hpath : v.AdmitsPath path) :
    (v.see fs).makeWay here path = v.see (fs.makeWay here path) ∧ v.Grown fs (fs.makeWay here path) := by
  have hparent : v.AdmitsPath ((Pathname.parent? path).getD "") := by
    cases hparent : Pathname.parent? path with
    | none => exact fun name hname => by cases hname
    | some parent => exact admitsPath_parent hpath hparent
  obtain ⟨hmade, hgrown⟩ := makeDirs_see hclear hhere hparent
  exact ⟨congrArg Prod.fst hmade, hgrown⟩

theorem chmod_see (hpath : v.AdmitsPath path) (mode : Option Nat) :
    (v.see fs).chmod here path mode = v.see (fs.chmod here path mode) ∧
      v.Grown fs (fs.chmod here path mode) := by
  cases mode with
  | none => exact ⟨rfl, .refl⟩
  | some mode => exact (setMode_see hclear hhere hpath mode).orSame

theorem placeLink_see {target : ByteString} (hpath : v.AdmitsPath path) (htarget : v.AdmitsPath target) :
    (v.see fs).placeLink here path target = v.see (fs.placeLink here path target) ∧
      v.Grown fs (fs.placeLink here path target) := by
  obtain ⟨hresolve, hsight⟩ := resolve_see false hclear hhere hpath
  unfold FileSystem.placeLink
  rw [hresolve]
  cases hr : fs.resolve here false path with
  | error e => exact ⟨rfl, .refl⟩
  | ok place =>
    have hplace := hsight _ hr
    cases place with
    | entry l e => exact ⟨rfl, .refl⟩
    | vacant dir name =>
      refine ⟨?_, Grown.refl.put hplace.1 (fun old hold => ?_) fun t ht => ?_⟩
      · rw [see_put hplace.1]
        rfl
      · rw [hplace.2] at hold
        cases hold
      · cases ht
        exact htarget

/-- **What is created in sight** is seen to be created. -/
theorem create_see {x : Fixture} (hx : v.AdmitsFixture x) :
    Fixture.create here (v.see fs) (v.seeFixture x) = v.see (Fixture.create here fs x) ∧
      v.Grown fs (Fixture.create here fs x) := by
  obtain ⟨path, kind, mode⟩ := x
  obtain ⟨hpath, hlink⟩ := hx
  obtain ⟨hway, hgrown⟩ := makeWay_see hclear hhere hpath
  rw [Fixture.create_eq, Fixture.create_eq]
  dsimp only [seeFixture]
  cases kind with
  | dir =>
    obtain ⟨hmade, hgrown⟩ := makeDirs_see hclear hhere hpath
    obtain ⟨hmode, hlater⟩ := chmod_see (hgrown.clear hclear) hhere hpath mode
    dsimp only
    rw [hmade]
    exact ⟨hmode, hgrown.trans hlater⟩
  | file content =>
    obtain ⟨hwrite, hwritten⟩ := (writeBytes_see (hgrown.clear hclear) hhere hpath content).orSame
    have hgrown := hgrown.trans hwritten
    obtain ⟨hmode, hlater⟩ := chmod_see (hgrown.clear hclear) hhere hpath mode
    dsimp only
    rw [hway, hwrite]
    exact ⟨hmode, hgrown.trans hlater⟩
  | link target =>
    obtain ⟨hput, hlinked⟩ := placeLink_see (hgrown.clear hclear) hhere hpath (hlink target rfl)
    have hgrown := hgrown.trans hlinked
    obtain ⟨hmode, hlater⟩ := chmod_see (hgrown.clear hclear) hhere hpath mode
    dsimp only
    rw [hway, hput]
    exact ⟨hmode, hgrown.trans hlater⟩

/-- **All that is created in sight** is seen to be created, in order. -/
theorem createAll_see {xs : List Fixture} (hxs : ∀ x ∈ xs, v.AdmitsFixture x) :
    Fixture.createAll here (v.see fs) (xs.map v.seeFixture) = v.see (Fixture.createAll here fs xs) ∧
      v.Grown fs (Fixture.createAll here fs xs) := by
  unfold Fixture.createAll
  induction xs generalizing fs with
  | nil => exact ⟨rfl, .refl⟩
  | cons x xs ih =>
    obtain ⟨hfirst, hgrown⟩ := create_see hclear hhere (hxs x List.mem_cons_self)
    obtain ⟨hrest, hlater⟩ := ih (hgrown.clear hclear) fun y hy => hxs y (List.mem_cons_of_mem _ hy)
    rw [List.map_cons, List.foldl_cons, List.foldl_cons, hfirst]
    exact ⟨hrest, hgrown.trans hlater⟩

end Fixtures

end View

end Checkout
