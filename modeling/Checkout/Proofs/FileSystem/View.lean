import Checkout.Proofs.FileSystem.Locate

/-!
# Files as seen through a view

A view hides some locations with everything below them, and shows the contents of files as something
else. Walks look at names, links and directories only; so as long as no name leads to a hidden location,
a walk through what is seen finds what the walk through the files finds, as it is seen.

Results:
* `get?_see`, `see_put`, `see_put_of_hidden`, `see_removeBelow`, `see_remove`: what is seen, change by
  change;
* `resolve_see`, `locate_see`: what path names lead to is seen there;
* `Grown.clear`, `Grown.keeps`: files that grew where they can be seen.
-/

namespace Checkout

namespace Entry

/-- The entry with something else for its content. -/
def mapContent (f : List UInt8 → List UInt8) : Entry → Entry
  | .file content mode => .file (f content) mode
  | e => e

variable {f : List UInt8 → List UInt8} {e : Entry} {target : ByteString}

@[simp] theorem mapContent_id (e : Entry) : e.mapContent id = e := by
  cases e <;> rfl

@[simp] theorem isDir_mapContent : (e.mapContent f).isDir = e.isDir := by
  cases e <;> rfl

@[simp] theorem isFile_mapContent : (e.mapContent f).isFile = e.isFile := by
  cases e <;> rfl

@[simp] theorem mapContent_eq_link : e.mapContent f = .link target ↔ e = .link target := by
  cases e <;> simp [mapContent]

theorem mapContent_withMode (mode : Nat) :
    (e.withMode mode).mapContent f = (e.mapContent f).withMode mode := by
  cases e <;> rfl

end Entry

/-- A way to look at files: some locations are hidden, contents are seen as something else, and some
names are known not to lead from what is seen to what is hidden. -/
structure View where
  hidden : Location → Bool
  content : List UInt8 → List UInt8
  admits : ByteString → Prop
  root : hidden [] = false
  /-- What is below a hidden location is hidden. -/
  up : ∀ l, hidden l = false → hidden l.dropLast = false
  down : ∀ l name, hidden l = false → admits name → hidden (l ++ [name]) = false
  dot : admits "."

namespace View

open FileSystem (Place Leg startOf)

variable {v : View} {fs fs' fs'' : FileSystem} {l here : Location} {e : Entry} {names : List ByteString}
  {path : ByteString}

/-- The files as they are seen. -/
def see (v : View) (fs : FileSystem) : FileSystem :=
  ⟨(fs.entries.filter fun x => !v.hidden x.1).map fun x => (x.1, x.2.mapContent v.content)⟩

/-! ## What is seen -/

theorem lookup_map (f : Entry → Entry) (entries : List (Location × Entry)) (l : Location) :
    (entries.map fun x => (x.1, f x.2)).lookup l = (entries.lookup l).map f := by
  induction entries with
  | nil => rfl
  | cons x rest ih =>
    obtain ⟨k, e⟩ := x
    by_cases hk : l = k
    · subst hk
      simp
    · have hne : (l == k) = false := by simpa using hk
      simp [List.lookup_cons, hne, ih]

/-- **What is seen at a location** is what stands there, or nothing. -/
theorem get?_see (v : View) (fs : FileSystem) (l : Location) :
    (v.see fs).get? l = if v.hidden l then none else (fs.get? l).map (·.mapContent v.content) := by
  have hdropped := FileSystem.lookup_filter (fun k => !v.hidden k) fs.entries l
  by_cases hl : l = []
  · subst hl
    simp [FileSystem.get?, v.root, Entry.mapContent]
  · unfold FileSystem.get? see
    rw [if_neg hl, if_neg hl, lookup_map (·.mapContent v.content), hdropped]
    cases v.hidden l <;> rfl

theorem get?_see_of_visible (hl : v.hidden l = false) :
    (v.see fs).get? l = (fs.get? l).map (·.mapContent v.content) := by
  rw [get?_see, hl, if_neg (by decide)]

theorem any_isDir_see (hl : v.hidden l = false) :
    ((v.see fs).get? l).any Entry.isDir = (fs.get? l).any Entry.isDir := by
  rw [get?_see_of_visible hl]
  cases fs.get? l <;> simp

theorem see_put (hl : v.hidden l = false) :
    v.see (fs.put l e) = (v.see fs).put l (e.mapContent v.content) := by
  unfold see FileSystem.put
  rw [List.filter_cons_of_pos (by simp [hl]), List.map_cons, List.filter_map, List.filter_filter,
    List.filter_filter]
  simp only [Function.comp_def, Bool.and_comm]

theorem see_put_of_hidden (hl : v.hidden l = true) : v.see (fs.put l e) = v.see fs := by
  unfold see FileSystem.put
  rw [List.filter_cons_of_neg (by simp [hl]), List.filter_filter]
  congr 2
  refine List.filter_congr fun x _ => ?_
  by_cases hx : x.1 = l
  · simp [hx, hl]
  · simp [hx]

theorem see_removeBelow : v.see (fs.removeBelow l) = (v.see fs).removeBelow l := by
  unfold see FileSystem.removeBelow
  rw [List.filter_map, List.filter_filter, List.filter_filter]
  simp only [Function.comp_def, Bool.and_comm]

theorem see_remove : v.see (fs.remove l) = (v.see fs).remove l := by
  unfold see FileSystem.remove
  rw [List.filter_map, List.filter_filter, List.filter_filter]
  simp only [Function.comp_def, Bool.and_comm]

/-! ## Walks -/

/-- The names of a path name do not lead from what is seen to what is hidden. -/
def AdmitsPath (v : View) (path : ByteString) : Prop := ∀ name ∈ Pathname.names path, v.admits name

theorem admitsPath_parts (h : v.AdmitsPath path) : ∀ name ∈ Pathname.parts path, v.admits name := by
  obtain ⟨tail, hparts, htail⟩ := Pathname.parts_eq path
  intro name hname
  rw [hparts, List.mem_append] at hname
  rcases hname with hname | hname
  · exact h name hname
  · rcases htail with rfl | rfl
    · cases hname
    · rw [List.mem_singleton.mp hname]
      exact v.dot

/-- No link that is seen leads to what is hidden. -/
def Clear (v : View) (fs : FileSystem) : Prop :=
  ∀ l target, v.hidden l = false → fs.get? l = some (.link target) → v.AdmitsPath target

theorem Clear.removeBelow (h : v.Clear fs) (l : Location) : v.Clear (fs.removeBelow l) := by
  intro at_ target hat hlink
  rw [FileSystem.get?_removeBelow] at hlink
  split at hlink
  · cases hlink
  · exact h at_ target hat hlink

theorem visible_startOf (path : ByteString) (hhere : v.hidden here = false) :
    v.hidden (startOf here path) = false := by
  unfold startOf
  by_cases h : Pathname.isAbsolute path = true
  · rw [if_pos h]
    exact v.root
  · rwa [if_neg h]

/-- Where a walk ends, as it is seen. -/
def seePlace (v : View) : Place → Place
  | .entry l e => .entry l (e.mapContent v.content)
  | .vacant dir name => .vacant dir name

/-- Where a leg ends, as it is seen. -/
def seeLeg (v : View) : Leg → Leg
  | .stop place => .stop (v.seePlace place)
  | .link dir target rest => .link dir target rest

/-- A place is in sight, and there is what it says. -/
def InSight (v : View) (fs : FileSystem) : Place → Prop
  | .entry l e => v.hidden l = false ∧ fs.get? l = some e
  | .vacant dir name => v.hidden (dir ++ [name]) = false ∧ fs.get? (dir ++ [name]) = none

/-- A leg ends in sight, and no name that is left leads to what is hidden. -/
def LegInSight (v : View) (fs : FileSystem) : Leg → Prop
  | .stop place => v.InSight fs place
  | .link dir target rest => v.hidden dir = false ∧ v.AdmitsPath target ∧ ∀ name ∈ rest, v.admits name

/-- **A leg through what is seen** ends where the leg through the files ends, and that is in sight. -/
theorem leg_see (follow : Bool) (admits : Location → Bool) (hclear : v.Clear fs)
    (hhere : v.hidden here = false) (hnames : ∀ name ∈ names, v.admits name) :
    (v.see fs).leg follow admits here names = (fs.leg follow admits here names).map v.seeLeg ∧
      ∀ r, fs.leg follow admits here names = .ok r → v.LegInSight fs r := by
  induction names generalizing here with
  | nil =>
    unfold FileSystem.leg
    rw [get?_see_of_visible hhere]
    cases he : fs.get? here with
    | none => exact ⟨rfl, fun r hr => by cases hr⟩
    | some e => exact ⟨rfl, fun r hr => by cases hr; exact ⟨hhere, he⟩⟩
  | cons name rest ih =>
    have hrest : ∀ x ∈ rest, v.admits x := fun x hx => hnames x (List.mem_cons_of_mem _ hx)
    have hthere := v.down here name hhere (hnames name List.mem_cons_self)
    unfold FileSystem.leg
    rw [any_isDir_see hhere, get?_see_of_visible hthere]
    by_cases hdir : (!(fs.get? here).any Entry.isDir) = true
    · rw [if_pos hdir, if_pos hdir]
      exact ⟨rfl, fun r hr => by cases hr⟩
    rw [if_neg hdir, if_neg hdir]
    by_cases hdot : name = "."
    · rw [if_pos hdot, if_pos hdot]
      exact ih hhere hrest
    rw [if_neg hdot, if_neg hdot]
    by_cases hdots : name = ".."
    · rw [if_pos hdots, if_pos hdots]
      exact ih (v.up here hhere) hrest
    rw [if_neg hdots, if_neg hdots]
    by_cases hlong : name.length > FileSystem.maxNameBytes ∨ (!admits (here ++ [name])) = true
    · rw [if_pos hlong, if_pos hlong]
      exact ⟨rfl, fun r hr => by cases hr⟩
    rw [if_neg hlong, if_neg hlong]
    cases he : fs.get? (here ++ [name]) with
    | none =>
      by_cases hempty : rest.isEmpty = true
      · simp only [Option.map_none, hempty, if_true]
        exact ⟨rfl, fun r hr => by cases hr; exact ⟨hthere, he⟩⟩
      · simp only [Option.map_none, hempty]
        exact ⟨rfl, fun r hr => by cases hr⟩
    | some e =>
      cases e with
      | link target =>
        simp only [Option.map_some, Entry.mapContent]
        by_cases hend : (rest.isEmpty && !follow) = true
        · rw [if_pos hend]
          exact ⟨rfl, fun r hr => by cases hr; exact ⟨hthere, he⟩⟩
        · rw [if_neg hend]
          exact ⟨rfl, fun r hr => by cases hr; exact ⟨hhere, hclear _ target hthere he, hrest⟩⟩
      | file content mode => exact ih hthere hrest
      | dir mode => exact ih hthere hrest
      | device => exact ih hthere hrest

/-- **A walk through what is seen** ends where the walk through the files ends, and that is in sight. -/
theorem walk_see (follow : Bool) (admits : Location → Bool) (links : Nat) (hclear : v.Clear fs)
    (hhere : v.hidden here = false) (hnames : ∀ name ∈ names, v.admits name) :
    (v.see fs).walk follow admits links here names =
        (fs.walk follow admits links here names).map v.seePlace ∧
      ∀ place, fs.walk follow admits links here names = .ok place → v.InSight fs place := by
  fun_induction FileSystem.walk fs follow admits links here names with
  | case1 links here names e hr =>
    obtain ⟨hleg, -⟩ := leg_see follow admits hclear hhere hnames
    rw [FileSystem.walk, hleg, hr]
    exact ⟨rfl, fun place h => by cases h⟩
  | case2 links here names place hr =>
    obtain ⟨hleg, hsight⟩ := leg_see follow admits hclear hhere hnames
    rw [FileSystem.walk, hleg, hr]
    exact ⟨rfl, fun place h => by cases h; exact hsight _ hr⟩
  | case3 here names dir target rest hr =>
    obtain ⟨hleg, -⟩ := leg_see follow admits hclear hhere hnames
    rw [FileSystem.walk, hleg, hr]
    exact ⟨rfl, fun place h => by cases h⟩
  | case4 here names dir target rest hr links hpath =>
    obtain ⟨hleg, -⟩ := leg_see follow admits hclear hhere hnames
    rw [FileSystem.walk, hleg, hr]
    refine ⟨?_, fun place h => by cases h⟩
    simp only [Except.map, seeLeg, if_pos hpath]
  | case5 here names dir target rest hr links hpath ih =>
    obtain ⟨hleg, hsight⟩ := leg_see follow admits hclear hhere hnames
    obtain ⟨hdir, htarget, hrest⟩ := hsight _ hr
    rw [FileSystem.walk, hleg, hr]
    simp only [Except.map, seeLeg, if_neg hpath]
    refine ih (visible_startOf target hdir) fun name hname => ?_
    rcases List.mem_append.mp hname with hname | hname
    · exact admitsPath_parts htarget name hname
    · exact hrest name hname

/-- **What a path name leads to is seen** where it is. -/
theorem resolve_see (follow : Bool) (hclear : v.Clear fs) (hhere : v.hidden here = false)
    (hpath : v.AdmitsPath path) :
    (v.see fs).resolve here follow path = (fs.resolve here follow path).map v.seePlace ∧
      ∀ place, fs.resolve here follow path = .ok place → v.InSight fs place := by
  obtain ⟨hwalk, hsight⟩ := walk_see follow (fun _ => true) FileSystem.maxLinks hclear
    (visible_startOf path hhere) (admitsPath_parts hpath)
  unfold FileSystem.resolve
  by_cases hnul : path.toList.contains Pathname.nul = true
  · rw [if_pos hnul, if_pos hnul]
    exact ⟨rfl, fun place h => by cases h⟩
  rw [if_neg hnul, if_neg hnul]
  by_cases hempty : path = ""
  · rw [if_pos hempty, if_pos hempty]
    exact ⟨rfl, fun place h => by cases h⟩
  rw [if_neg hempty, if_neg hempty]
  by_cases hlong : path.length > FileSystem.maxPathBytes
  · rw [if_pos hlong, if_pos hlong]
    exact ⟨rfl, fun place h => by cases h⟩
  rw [if_neg hlong, if_neg hlong, hwalk]
  cases hr : fs.walk follow (fun _ => true) FileSystem.maxLinks (startOf here path) (Pathname.parts path) with
  | error e => exact ⟨rfl, fun place h => by cases h⟩
  | ok place => exact ⟨rfl, fun place h => by cases h; exact hsight _ hr⟩

theorem locate_see (hclear : v.Clear fs) (hhere : v.hidden here = false) (hpath : v.AdmitsPath path) :
    (v.see fs).locate here path =
      (fs.locate here path).map fun x => (x.1, x.2.mapContent v.content) := by
  unfold FileSystem.locate
  rw [(resolve_see true hclear hhere hpath).1]
  cases fs.resolve here true path with
  | error e => rfl
  | ok place => cases place <;> rfl

theorem visible_of_locate (hclear : v.Clear fs) (hhere : v.hidden here = false)
    (hpath : v.AdmitsPath path) (h : fs.locate here path = .ok (l, e)) : v.hidden l = false :=
  ((resolve_see true hclear hhere hpath).2 _ (FileSystem.locate_eq_ok.mp h)).1

/-! ## Files that grow in sight -/

/-- Nothing was done to the files but to put entries where they can be seen: in places that were free, or
that held an entry of their kind. -/
inductive Grown (v : View) (fs : FileSystem) : FileSystem → Prop
  | refl : Grown v fs fs
  | put {fs' : FileSystem} {l : Location} {e : Entry} : Grown v fs fs' → v.hidden l = false →
      (∀ old, fs'.get? l = some old → e.kind = old.kind) →
      (∀ target, e = .link target → v.AdmitsPath target) → Grown v fs (fs'.put l e)

namespace Grown

theorem trans (h : v.Grown fs fs') (h' : v.Grown fs' fs'') : v.Grown fs fs'' := by
  induction h' with
  | refl => exact h
  | put _ hl hkind hlink ih => exact ih.put hl hkind hlink

/-- An entry that is no link is put in a free place, or in that of an entry of its kind. -/
theorem single (hl : v.hidden l = false) (hkind : ∀ old, fs.get? l = some old → e.kind = old.kind)
    (hlink : e.isLink = false) : v.Grown fs (fs.put l e) :=
  Grown.refl.put hl hkind fun target h => by simp [h, Entry.isLink] at hlink

theorem clear (h : v.Grown fs fs') (hclear : v.Clear fs) : v.Clear fs' := by
  induction h with
  | refl => exact hclear
  | @put fs' l e _ _ hkind hlink ih =>
    intro at_ target hat htarget
    by_cases hsame : at_ = l
    · subst hsame
      by_cases hroot : at_ = []
      · subst hroot
        simp [FileSystem.get?] at htarget
      · rw [FileSystem.get?_put_self hroot, Option.some.injEq] at htarget
        exact hlink target htarget
    · rw [FileSystem.get?_put_of_ne hsame] at htarget
      exact ih at_ target hat htarget

theorem keeps (h : v.Grown fs fs') : FileSystem.Keeps fs fs' := by
  induction h with
  | refl => exact .refl fs
  | put _ _ hkind _ ih => exact ih.trans (FileSystem.keeps_put hkind)

/-- What is hidden is left alone. -/
theorem get?_of_hidden (h : v.Grown fs fs') (hl : v.hidden l = true) : fs'.get? l = fs.get? l := by
  induction h with
  | refl => rfl
  | @put fs' at_ e _ hat _ _ ih =>
    rw [FileSystem.get?_put_of_ne, ih]
    rintro rfl
    rw [hl] at hat
    cases hat

end Grown

end View

end Checkout
