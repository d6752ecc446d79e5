import Checkout.Proofs.FileSystem.Growth
import Checkout.Proofs.FileSystem.Tree
import Checkout.Proofs.Text.Pieces

/-!
# Making a directory

A directory is made under the last name of a path name, where nothing stands yet. What leads to it is made
first, parent by parent. If the path name led to nothing and has no double dots, then each name that is made is
looked up in a directory that has just been made, so nothing is in the way, and what comes of it is a directory
with nothing in it. With a double dot it need not be.

Results:
* `exists_of_makeDir`: where a directory is made;
* `makeDirs_of_locate`: a directory that is there is left as it is;
* `makeDirs_fresh`: a directory that was not there is empty when it is made.
-/

namespace Checkout

namespace Pathname

variable {path : ByteString}

/-- A path name is its bare form with slashes at its end. -/
theorem exists_eq_bare (path : ByteString) :
    ∃ slashes, path.toList = (bare path).toList ++ slashes ∧ ∀ c ∈ slashes, c = slash := by
  obtain ⟨slashes, hpath, hall⟩ := Text.exists_dropWhileEnd_append (· == slash) path.toList
  refine ⟨slashes, ?_, fun c hc => by simpa using hall c hc⟩
  exact hpath

theorem noNul_bare : Pathname.nul ∈ (bare path).toList ↔ Pathname.nul ∈ path.toList := by
  obtain ⟨slashes, hpath, hslashes⟩ := exists_eq_bare path
  rw [hpath, List.mem_append]
  refine ⟨Or.inl, fun h => h.elim id fun h => ?_⟩
  cases hslashes _ h

theorem isAbsolute_bare (h : names path ≠ []) : isAbsolute (bare path) = isAbsolute path := by
  obtain ⟨slashes, hpath, -⟩ := exists_eq_bare path
  unfold isAbsolute
  rw [hpath]
  cases hbare : (bare path).toList with
  | nil =>
    refine absurd ?_ h
    rw [← names_bare, names_eq, hbare]
    rfl
  | cons c rest => rfl

theorem length_bare_le (path : ByteString) : (bare path).length ≤ path.length := by
  obtain ⟨slashes, hpath, -⟩ := exists_eq_bare path
  have hwhole : path = bare path ++ ByteString.ofList slashes := by
    rw [← ByteString.toList_inj, ByteString.toList_append, ByteString.toList_ofList, hpath]
  have hsize := congrArg ByteString.length hwhole
  rw [ByteString.length_append] at hsize
  omega

theorem getLast?_dropIdle (fuel : Nat) (cs : List UInt8) : (dropIdle fuel cs).getLast? = cs.getLast? := by
  induction fuel generalizing cs with
  | zero => rfl
  | succ fuel ih =>
    cases cs with
    | nil => rfl
    | cons c rest =>
      unfold dropIdle
      cases rest with
      | nil => split_ifs with hslash <;> simp_all
      | cons d more => split_ifs <;> simp_all [List.getLast?_cons_cons]

/-- The parent of a path name begins at the root just if the path name does. -/
theorem isAbsolute_parent {parent : ByteString} (h : parent? path = some parent) :
    isAbsolute parent = isAbsolute path := by
  have hcut : ∀ cs : List UInt8,
      ((cs.dropWhile (· ≠ slash)).getLast? == some slash) = (cs.getLast? == some slash) := by
    intro cs
    obtain ⟨front, hfront⟩ := List.dropWhile_suffix (p := (· ≠ slash)) (l := cs)
    by_cases hall : cs.dropWhile (· ≠ slash) = []
    · rw [hall]
      rw [List.dropWhile_eq_nil_iff] at hall
      cases hlast : cs.getLast? with
      | none => rfl
      | some c => simpa using hall c (List.mem_of_getLast? hlast)
    · conv_rhs => rw [← hfront]
      rw [List.getLast?_append_of_ne_nil _ hall]
  unfold parent? at h
  unfold isAbsolute
  split at h
  · cases h
  · cases h
  · cases h
    rw [ByteString.toList_ofList, List.head?_reverse, getLast?_dropIdle, hcut, getLast?_dropIdle,
      List.getLast?_reverse]

end Pathname

namespace FileSystem

variable {fs fs' : FileSystem} {admits : Location → Bool} {follow : Bool} {here l dir : Location}
  {n links : Nat} {as : List ByteString} {path name x : ByteString} {e : Entry} {mode : Nat}

/-! ## Where a directory is made -/

/-- A walk that ends where nothing stands, and follows no link under the last name, goes to the directory
that would hold it: the last name is missing there. -/
theorem exists_trail_of_walk_vacant
    (h : fs.walk false admits links here (as ++ [x]) = .ok (.vacant dir name)) :
    x = name ∧ fs.get? (dir ++ [name]) = none ∧ Asks fs admits dir name ∧
      ∃ n ≤ links, Trail fs admits n here as dir := by
  obtain ⟨errno, -, hfails⟩ | ⟨l, mode, hdot⟩ := walk_dot_cases fs false admits links here as x
  · rw [hfails] at h
    cases h
  have hdir := get?_of_walk hdot
  obtain ⟨n, hn, htrail⟩ := exists_trail_of_walk hdot
  obtain ⟨i, j, t, hij, hi, hj⟩ := htrail.exists_of_append
  have hend := eq_of_trail_tail hj (Or.inr rfl)
  subst hend
  rw [walk_append hi (by omega) (by simp), walk] at h
  have hisDir : (fs.get? l).any Entry.isDir = true := by
    rw [hdir]
    rfl
  by_cases hdot : x = "."
  · simp [leg, hdir, Entry.isDir, hdot] at h
  by_cases hdots : x = ".."
  · subst hdots
    cases hup : fs.get? l.dropLast <;> simp [leg, hdir, Entry.isDir, hup] at h
  by_cases hlong : x.length > maxNameBytes ∨ (!admits (l ++ [x])) = true
  · rw [leg, hisDir, if_neg (by decide), if_neg hdot, if_neg hdots, if_pos hlong] at h
    cases h
  rw [not_or, Nat.not_lt] at hlong
  have hasks : Asks fs admits l x := ⟨hisDir, hdot, hdots, hlong.1, by simpa using hlong.2⟩
  rw [leg_cons_of_asks false hasks] at h
  cases he : fs.get? (l ++ [x]) with
  | none =>
    rw [he] at h
    cases h
    exact ⟨rfl, he, hasks, i, by omega, hi⟩
  | some e =>
    rw [he] at h
    cases e <;> simp [leg, he] at h

theorem askable_bare (hnames : Pathname.names path ≠ []) (h : Askable path) : Askable (Pathname.bare path) := by
  obtain ⟨-, hnul⟩ := Pathname.isPathname_iff.mp h.1
  refine ⟨Pathname.isPathname_iff.mpr ⟨fun hempty => hnames ?_, mt Pathname.noNul_bare.mp hnul⟩,
    Nat.le_trans (Pathname.length_bare_le path) h.2⟩
  rw [← Pathname.names_bare, hempty]
  rfl

/-- The path name under which a directory is made is walked like the path name itself. -/
theorem resolve_withoutSlash (hnames : Pathname.names path ≠ []) (h : Askable path) :
    fs.resolve here follow (Pathname.withoutSlash path) =
      (fs.walk follow AnyLocation maxLinks (startOf here path) (Pathname.parts (Pathname.bare path))).mapError
        .os := by
  have hform : Pathname.withoutSlash path = Pathname.bare path := by
    unfold Pathname.withoutSlash
    rw [if_neg (by simpa [hnames] using h.2)]
  rw [hform, resolve_of_askable (askable_bare hnames h),
    startOf_eq_of_isAbsolute_eq (Pathname.isAbsolute_bare hnames)]

/-- A path name whose form without slashes leads somewhere can be asked for. -/
theorem askable_of_resolve_withoutSlash {place : Place} (hnames : Pathname.names path ≠ [])
    (h : fs.resolve here follow (Pathname.withoutSlash path) = .ok place) : Askable path := by
  have haskable := askable_of_resolve h
  unfold Pathname.withoutSlash at haskable
  split at haskable
  · exact haskable
  · rename_i hlong
    rw [not_or, Nat.not_lt] at hlong
    obtain ⟨-, hnul⟩ := Pathname.isPathname_iff.mp haskable.1
    refine ⟨Pathname.isPathname_iff.mpr ⟨fun hempty => hnames ?_, mt Pathname.noNul_bare.mpr hnul⟩, hlong.2⟩
    rw [hempty]
    rfl

/-- **Where a directory is made**: in the directory that all names but the last lead to, under the last name,
where nothing stands. -/
theorem exists_of_makeDir (h : fs.makeDir here path = .ok fs') :
    ∃ as name dir, Pathname.names path = as ++ [name] ∧ Askable path ∧ Asks fs AnyLocation dir name ∧
      fs.get? (dir ++ [name]) = none ∧ fs' = fs.put (dir ++ [name]) (.dir newDirMode) ∧
      ∃ n ≤ maxLinks, Trail fs AnyLocation n (startOf here path) as dir := by
  unfold makeDir at h
  cases hr : fs.resolve here false (Pathname.withoutSlash path) with
  | error e =>
    rw [hr] at h
    cases h
  | ok place =>
    rw [hr] at h
    cases place with
    | entry l e => cases h
    | vacant dir name =>
      cases h
      have hnames : Pathname.names path ≠ [] := by
        intro hnone
        have hparts : Pathname.parts (Pathname.withoutSlash path) = [] := by
          unfold Pathname.withoutSlash Pathname.parts
          simp [hnone]
        rw [resolve_of_askable (askable_of_resolve hr), hparts, walk, leg] at hr
        cases hstart : fs.get? (startOf here (Pathname.withoutSlash path)) <;>
          simp [hstart, Except.mapError] at hr
      have haskable := askable_of_resolve_withoutSlash hnames hr
      have hwalk := hr
      rw [resolve_withoutSlash hnames haskable] at hwalk
      cases hw : fs.walk false AnyLocation maxLinks (startOf here path)
          (Pathname.parts (Pathname.bare path)) with
      | error e =>
        rw [hw] at hwalk
        cases hwalk
      | ok place =>
        rw [hw] at hwalk
        cases hwalk
        obtain ⟨tail, hparts, htail⟩ := Pathname.parts_eq (Pathname.bare path)
        rw [Pathname.names_bare] at hparts
        rw [hparts] at hw
        rcases htail with rfl | rfl
        · obtain ⟨as, x, hlast⟩ := List.eq_nil_or_concat (Pathname.names path) |>.resolve_left hnames
          rw [List.append_nil, hlast, List.concat_eq_append] at hw
          obtain ⟨rfl, hfree, hasks, htrail⟩ := exists_trail_of_walk_vacant hw
          exact ⟨as, x, dir, by rw [hlast, List.concat_eq_append], haskable, hasks, hfree, rfl, htrail⟩
        · obtain ⟨hdot, -, hasks, -⟩ := exists_trail_of_walk_vacant hw
          exact absurd hdot.symm hasks.notCurrent

/-- A directory that was made is found, with nothing in it. -/
theorem locate_of_makeDir (hclosed : fs.Closed) (h : fs.makeDir here path = .ok fs') :
    fs'.Closed ∧ ∃ l, fs'.locate here path = .ok (l, .dir newDirMode) ∧
      ∀ at_, isBelow l at_ = true → fs'.get? at_ = none := by
  obtain ⟨as, name, dir, hnames, haskable, hasks, hfree, rfl, n, hn, htrail⟩ := exists_of_makeDir h
  have hdir : fs.get? dir ≠ none := by
    intro hnone
    have hisDir := hasks.isDir
    rw [hnone] at hisDir
    cases hisDir
  have hself : (fs.put (dir ++ [name]) (.dir newDirMode)).get? (dir ++ [name]) = some (.dir newDirMode) :=
    get?_put_self (by simp)
  have hkeeps : Keeps fs (fs.put (dir ++ [name]) (.dir newDirMode)) :=
    keeps_put fun old hold => by rw [hfree] at hold; cases hold
  have hdown : Trail (fs.put (dir ++ [name]) (.dir newDirMode)) AnyLocation n (startOf here path)
      (Pathname.names path) (dir ++ [name]) := by
    rw [hnames]
    exact (htrail.keep hkeeps).append
      (.down { hasks with isDir := hkeeps.any_isDir hasks.isDir } hself rfl (.stop hself))
  refine ⟨hclosed.put hdir, dir ++ [name], locate_eq_ok_iff.mpr ⟨haskable, hself, n, hn, ?_⟩, ?_⟩
  · obtain ⟨tail, hparts, rfl | rfl⟩ := Pathname.parts_eq path
    · rwa [hparts, List.append_nil]
    · rw [hparts]
      exact hdown.append (.stay rfl (by rw [hself]; rfl) (.stop hself))
  · intro at_ hat
    obtain ⟨hfront, hother⟩ := isBelow_iff.mp hat
    rw [get?_put_of_ne hother]
    exact hclosed _ _ hfront hfree

/-! ## A directory that is there -/

/-- Where names lead, there the walk that does not follow a link under the last of them finds something. -/
theorem exists_walk_false_of_trail (h : Trail fs admits n here as l) (hn : n ≤ links) :
    ∃ at_ e, fs.walk false admits links here as = .ok (.entry at_ e) := by
  induction h generalizing links with
  | @stop here e he => exact ⟨here, e, by rw [walk, leg, he]⟩
  | @stay n here l name rest hname hdir _ ih =>
    have hleg : fs.leg false admits here (name :: rest) = fs.leg false admits here rest := by
      rw [leg, hdir, if_neg (by decide), if_pos hname]
    rw [walk_congr hleg]
    exact ih hn
  | @up n here l name rest hname hdir _ ih =>
    have hleg : fs.leg false admits here (name :: rest) = fs.leg false admits here.dropLast rest := by
      rw [leg, hdir, if_neg (by decide), if_neg (hname ▸ by decide), if_pos hname]
    rw [walk_congr hleg]
    exact ih hn
  | @down n here l name rest e hasks he hlink _ ih =>
    have hleg : fs.leg false admits here (name :: rest) = fs.leg false admits (here ++ [name]) rest := by
      rw [leg_cons_of_asks false hasks, he]
      cases e <;> first | rfl | cases hlink
    rw [walk_congr hleg]
    exact ih hn
  | @link n here l name target rest hasks he htarget _ ih =>
    obtain ⟨links, rfl⟩ : ∃ k, links = k + 1 := ⟨links - 1, by omega⟩
    by_cases hrest : rest = []
    · exact ⟨here ++ [name], .link target, by rw [walk, leg_cons_of_asks false hasks, he]; simp [hrest]⟩
    · obtain ⟨at_, e, hwalk⟩ := ih (by omega : n ≤ links)
      refine ⟨at_, e, ?_⟩
      rw [walk, leg_cons_of_asks false hasks, he]
      simpa [hrest, htarget] using hwalk

/-- Nothing is made under a path name that leads somewhere, and nothing is missing on its way. -/
theorem makeDir_of_locate (h : fs.locate here path = .ok (l, .dir mode)) :
    fs.makeDir here path = .error (.os .exists) := by
  obtain ⟨haskable, hdir, n, hn, htrail⟩ := locate_eq_ok_iff.mp h
  suffices hthere : ∃ at_ e, fs.resolve here false (Pathname.withoutSlash path) = .ok (.entry at_ e) by
    obtain ⟨at_, e, hresolve⟩ := hthere
    rw [makeDir, hresolve]
  by_cases hnames : Pathname.names path = []
  · have hform : Pathname.withoutSlash path = path := by
      unfold Pathname.withoutSlash
      rw [if_pos (by simp [hnames])]
    obtain ⟨at_, e, hwalk⟩ := exists_walk_false_of_trail htrail hn
    exact ⟨at_, e, by rw [hform, resolve_of_askable haskable, hwalk]; rfl⟩
  · obtain ⟨i, hi, hwhole⟩ := exists_trail_of_locate h
    have hbare : Trail fs AnyLocation i (startOf here path) (Pathname.parts (Pathname.bare path)) l := by
      obtain ⟨tail, hparts, rfl | rfl⟩ := Pathname.parts_eq (Pathname.bare path)
      · rwa [hparts, Pathname.names_bare, List.append_nil]
      · rw [hparts, Pathname.names_bare]
        exact hwhole.append (.stay rfl (by rw [hdir]; rfl) (.stop hdir))
    obtain ⟨at_, e, hwalk⟩ := exists_walk_false_of_trail hbare hi
    exact ⟨at_, e, by rw [resolve_withoutSlash hnames haskable, hwalk]; rfl⟩

theorem isDir_iff : fs.isDir here path = true ↔ ∃ l mode, fs.locate here path = .ok (l, .dir mode) := by
  unfold isDir
  cases fs.locate here path with
  | error e => simp
  | ok found =>
    obtain ⟨l, e⟩ := found
    cases e <;> simp [Entry.isDir]

/-- **A directory that is there** is left as it is. -/
theorem makeDirs_of_locate (h : fs.locate here path = .ok (l, .dir mode)) :
    fs.makeDirs here path = (fs, none) := by
  obtain ⟨haskable, -⟩ := locate_eq_ok_iff.mp h
  obtain ⟨hne, -⟩ := Pathname.isPathname_iff.mp haskable.1
  unfold makeDirs makeDirsFrom
  rw [if_neg hne, makeDir_of_locate h]
  simp [isDir_iff.mpr ⟨l, mode, h⟩]

/-! ## A directory that was missing -/

/-- A path name leads to a directory in which there is nothing. -/
def LeadsToEmptyDir (fs : FileSystem) (here : Location) (path : ByteString) : Prop :=
  ∃ l mode, fs.locate here path = .ok (l, .dir mode) ∧ ∀ at_, isBelow l at_ = true → fs.get? at_ = none

/-- Names without double dots that go on from an empty directory stay there. -/
theorem Trail.eq_of_empty (h : Trail fs admits n l as dir) (hup : (".." : ByteString) ∉ as)
    (hempty : ∀ at_, isBelow l at_ = true → fs.get? at_ = none) : dir = l := by
  induction as generalizing n with
  | nil =>
    cases h
    rfl
  | cons a as ih =>
    cases h with
    | stay _ _ h => exact ih h fun hmem => hup (List.mem_cons_of_mem _ hmem)
    | up hname _ _ => exact absurd (hname ▸ List.mem_cons_self) hup
    | down _ he _ _ =>
      rw [hempty _ (isBelow_concat l a)] at he
      cases he
    | link _ he _ _ =>
      rw [hempty _ (isBelow_concat l a)] at he
      cases he

/-- A path name that goes on from one that leads to an empty directory, and leads to a directory, leads to the
same one. -/
theorem LeadsToEmptyDir.of_prefix {parent : ByteString} (h : LeadsToEmptyDir fs here parent)
    (hstart : startOf here parent = startOf here path)
    (hnames : Pathname.names parent <+: Pathname.names path) (hup : (".." : ByteString) ∉ Pathname.names path)
    (hdir : fs.isDir here path = true) : LeadsToEmptyDir fs here path := by
  obtain ⟨l, mode, hparent, hempty⟩ := h
  obtain ⟨at_, bits, hfound⟩ := isDir_iff.mp hdir
  obtain ⟨_, -, hfront⟩ := exists_trail_of_locate hparent
  obtain ⟨_, -, hwhole⟩ := exists_trail_of_locate hfound
  obtain ⟨rest, hrest⟩ := hnames
  rw [← hrest] at hwhole hup
  obtain ⟨_, _, mid, -, hmid, hlast⟩ := hwhole.exists_of_append
  obtain ⟨-, rfl⟩ := (hstart ▸ hfront).unique hmid
  have hend := hlast.eq_of_empty (fun hmem => hup (List.mem_append_right _ hmem)) hempty
  subst hend
  exact ⟨_, bits, hfound, hempty⟩

theorem makeDir_fresh (hclosed : fs.Closed) (h : fs.makeDir here path = .ok fs') :
    fs'.Closed ∧ LeadsToEmptyDir fs' here path := by
  obtain ⟨hclosed', l, hfound, hempty⟩ := locate_of_makeDir hclosed h
  exact ⟨hclosed', l, newDirMode, hfound, hempty⟩

theorem makeLastDir_eq_ok (h : fs.makeLastDir here path = .ok fs') :
    fs.makeDir here path = .ok fs' ∨ fs' = fs ∧ fs.isDir here path = true := by
  unfold makeLastDir at h
  split at h
  · rename_i hmade
    exact Or.inl (hmade.trans h)
  · split at h
    · rename_i hdir
      cases h
      exact Or.inr ⟨rfl, hdir⟩
    · cases h

/-- **A directory is made empty**, parent by parent, or it was there and nothing is done. -/
theorem makeDirsFrom_fresh {fuel : Nat} (hclosed : fs.Closed)
    (hup : (".." : ByteString) ∉ Pathname.names path)
    (h : makeDirsFrom here fuel fs path = (fs', none)) :
    fs'.Closed ∧
      (fs' = fs ∧ (path = "" ∨ fs.isDir here path = true) ∨ LeadsToEmptyDir fs' here path) := by
  induction fuel generalizing path fs' with
  | zero => cases h
  | succ fuel ih =>
    unfold makeDirsFrom at h
    by_cases hempty : path = ""
    · rw [if_pos hempty] at h
      cases h
      exact ⟨hclosed, Or.inl ⟨rfl, Or.inl hempty⟩⟩
    rw [if_neg hempty] at h
    cases hmade : fs.makeDir here path with
    | ok made =>
      rw [hmade] at h
      cases h
      exact (makeDir_fresh hclosed hmade).imp_right Or.inr
    | error e =>
      rw [hmade] at h
      split at h
      · rename_i heq
        cases heq
      · -- What leads to the directory is missing, so it is made first.
        rename_i heq
        cases heq
        cases hparent : Pathname.parent? path with
        | none =>
          rw [hparent] at h
          cases h
        | some parent =>
          rw [hparent] at h
          have hnames := Pathname.names_parent hparent
          cases hfirst : makeDirsFrom here fuel fs parent with
          | mk made failure =>
            simp only [hfirst] at h
            cases failure with
            | some e => cases h
            | none =>
              obtain ⟨hclosed', hbefore⟩ := ih (fun hmem => hup (hnames.subset hmem)) hfirst
              cases hlast : made.makeLastDir here path with
              | error e =>
                simp only [hlast] at h
                cases h
              | ok whole =>
                simp only [hlast] at h
                cases h
                rcases makeLastDir_eq_ok hlast with hmade' | ⟨rfl, hdir⟩
                · exact (makeDir_fresh hclosed' hmade').imp_right Or.inr
                refine ⟨hclosed', Or.inr ?_⟩
                rcases hbefore with ⟨rfl, -⟩ | hfresh
                · -- It was there, so nothing was missing.
                  obtain ⟨l, mode, hfound⟩ := isDir_iff.mp hdir
                  rw [makeDir_of_locate hfound] at hmade
                  cases hmade
                · exact hfresh.of_prefix (startOf_eq_of_isAbsolute_eq (Pathname.isAbsolute_parent hparent))
                    hnames hup hdir
      · by_cases hdir : fs.isDir here path = true
        · simp only [hdir, if_true] at h
          cases h
          exact ⟨hclosed, Or.inl ⟨rfl, Or.inr hdir⟩⟩
        · simp only [hdir] at h
          cases h

/-- **A directory that was missing is empty when it is made**, if its path name has no double dots. -/
theorem makeDirs_fresh (hclosed : fs.Closed) (hne : path ≠ "")
    (hup : (".." : ByteString) ∉ Pathname.names path)
    (hmissing : fs.isDir here path = false) (h : fs.makeDirs here path = (fs', none)) :
    LeadsToEmptyDir fs' here path := by
  obtain ⟨-, ⟨-, hempty | hdir⟩ | hmade⟩ := makeDirsFrom_fresh hclosed hup h
  · exact absurd hempty hne
  · rw [hmissing] at hdir
    cases hdir
  · exact hmade

end FileSystem

end Checkout
