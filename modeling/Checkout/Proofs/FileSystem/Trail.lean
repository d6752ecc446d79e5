import Checkout.FileSystem.Resolve
import Checkout.Proofs.FileSystem.Pathname

/-!
# Trails

A trail leads along names from one location to another, and counts the links it passes through. Trails
are the derivations of walks that follow every link: a walk finds a location just if a trail leads there
through no more links than the walk may pass.

Counting exactly is what makes trails compose: along `as ++ bs` go exactly the trails along `as` with a
trail along `bs` after them, and their links add up.

Results:
* `Trail.append`, `Trail.exists_of_append`: trails along names one after another;
* `Trail.unique`: names lead to one location at most;
* `walk_eq_entry_iff`, `canonicalize_eq_ok_iff`: walks and trails.
-/

namespace Checkout.FileSystem

/-- A name may be asked for in a directory. -/
structure Asks (fs : FileSystem) (admits : Location → Bool) (dir : Location) (name : ByteString) : Prop where
  isDir : (fs.get? dir).any Entry.isDir = true
  notCurrent : name ≠ "."
  notParent : name ≠ ".."
  short : name.length ≤ maxNameBytes
  admitted : admits (dir ++ [name]) = true

/-- Names lead from a location to a location, and pass through so many links. -/
inductive Trail (fs : FileSystem) (admits : Location → Bool) :
    Nat → Location → List ByteString → Location → Prop
  | stop {here : Location} {e : Entry} : fs.get? here = some e → Trail fs admits 0 here [] here
  | stay {n : Nat} {here l : Location} {name : ByteString} {rest : List ByteString} :
      name = "." → (fs.get? here).any Entry.isDir = true → Trail fs admits n here rest l →
      Trail fs admits n here (name :: rest) l
  | up {n : Nat} {here l : Location} {name : ByteString} {rest : List ByteString} :
      name = ".." → (fs.get? here).any Entry.isDir = true → Trail fs admits n here.dropLast rest l →
      Trail fs admits n here (name :: rest) l
  | down {n : Nat} {here l : Location} {name : ByteString} {rest : List ByteString} {e : Entry} :
      Asks fs admits here name → fs.get? (here ++ [name]) = some e → e.isLink = false →
      Trail fs admits n (here ++ [name]) rest l → Trail fs admits n here (name :: rest) l
  | link {n : Nat} {here l : Location} {name target : ByteString} {rest : List ByteString} :
      Asks fs admits here name → fs.get? (here ++ [name]) = some (.link target) →
      Pathname.isPathname target = true →
      Trail fs admits n (startOf here target) (Pathname.parts target ++ rest) l →
      Trail fs admits (n + 1) here (name :: rest) l

namespace Trail

variable {fs : FileSystem} {admits : Location → Bool} {n k : Nat} {here l t : Location}
  {as bs : List ByteString}

/-- **Trails one after another** are a trail, through the links of both. -/
theorem append (h : Trail fs admits n here as l) (h' : Trail fs admits k l bs t) :
    Trail fs admits (n + k) here (as ++ bs) t := by
  induction h with
  | stop _ =>
    rw [Nat.zero_add]
    exact h'
  | stay hname hdir _ ih => exact .stay hname hdir (ih h')
  | up hname hdir _ ih => exact .up hname hdir (ih h')
  | down hasks he hlink _ ih => exact .down hasks he hlink (ih h')
  | @link n here l name target rest hasks he htarget _ ih =>
    have hrest := ih h'
    rw [List.append_assoc] at hrest
    rw [Nat.add_right_comm]
    exact .link hasks he htarget hrest

/-- A trail comes from something that is there. -/
theorem exists_entry (h : Trail fs admits n here as l) : ∃ e, fs.get? here = some e := by
  have hany : ∀ {o : Option Entry}, o.any Entry.isDir = true → ∃ e, o = some e := by
    intro o ho
    cases o with
    | none => cases ho
    | some e => exact ⟨e, rfl⟩
  cases h with
  | stop he => exact ⟨_, he⟩
  | stay _ hdir _ => exact hany hdir
  | up _ hdir _ => exact hany hdir
  | down hasks _ _ _ => exact hany hasks.isDir
  | link hasks _ _ _ => exact hany hasks.isDir

/-- **A trail along names one after another** is made of two, and their links add up. -/
theorem exists_of_append (h : Trail fs admits n here (as ++ bs) t) :
    ∃ i j l, n = i + j ∧ Trail fs admits i here as l ∧ Trail fs admits j l bs t := by
  generalize hcs : as ++ bs = cs at h
  induction h generalizing as with
  | @stop here e he =>
    obtain ⟨rfl, rfl⟩ := List.append_eq_nil_iff.mp hcs
    exact ⟨0, 0, here, rfl, .stop he, .stop he⟩
  | @stay n here l name rest hname hdir h ih =>
    rcases List.append_eq_cons_iff.mp hcs with ⟨rfl, rfl⟩ | ⟨as', rfl, rfl⟩
    · obtain ⟨e, he⟩ := (stay hname hdir h).exists_entry
      exact ⟨0, n, here, (Nat.zero_add n).symm, .stop he, .stay hname hdir h⟩
    · obtain ⟨i, j, m, hn, hi, hj⟩ := ih rfl
      exact ⟨i, j, m, hn, .stay hname hdir hi, hj⟩
  | @up n here l name rest hname hdir h ih =>
    rcases List.append_eq_cons_iff.mp hcs with ⟨rfl, rfl⟩ | ⟨as', rfl, rfl⟩
    · obtain ⟨e, he⟩ := (up hname hdir h).exists_entry
      exact ⟨0, n, here, (Nat.zero_add n).symm, .stop he, .up hname hdir h⟩
    · obtain ⟨i, j, m, hn, hi, hj⟩ := ih rfl
      exact ⟨i, j, m, hn, .up hname hdir hi, hj⟩
  | @down n here l name rest e hasks he hlink h ih =>
    rcases List.append_eq_cons_iff.mp hcs with ⟨rfl, rfl⟩ | ⟨as', rfl, rfl⟩
    · obtain ⟨e', he'⟩ := (down hasks he hlink h).exists_entry
      exact ⟨0, n, here, (Nat.zero_add n).symm, .stop he', .down hasks he hlink h⟩
    · obtain ⟨i, j, m, hn, hi, hj⟩ := ih rfl
      exact ⟨i, j, m, hn, .down hasks he hlink hi, hj⟩
  | @link n here l name target rest hasks he htarget h ih =>
    rcases List.append_eq_cons_iff.mp hcs with ⟨rfl, rfl⟩ | ⟨as', rfl, rfl⟩
    · obtain ⟨e', he'⟩ := (link hasks he htarget h).exists_entry
      exact ⟨0, n + 1, here, (Nat.zero_add _).symm, .stop he', .link hasks he htarget h⟩
    · obtain ⟨i, j, m, hn, hi, hj⟩ := ih (List.append_assoc _ _ _)
      exact ⟨i + 1, j, m, by omega, .link hasks he htarget hi, hj⟩

/-- **Names lead to one location at most**, and through one number of links. -/
theorem unique (h : Trail fs admits n here as l) (h' : Trail fs admits k here as t) :
    n = k ∧ l = t := by
  induction h generalizing k with
  | stop _ =>
    cases h'
    exact ⟨rfl, rfl⟩
  | stay hname _ _ ih =>
    cases h' with
    | stay _ _ h' => exact ih h'
    | up hname' _ _ => exact absurd (hname.symm.trans hname') (by decide)
    | down hasks _ _ _ => exact absurd hname hasks.notCurrent
    | link hasks _ _ _ => exact absurd hname hasks.notCurrent
  | up hname _ _ ih =>
    cases h' with
    | stay hname' _ _ => exact absurd (hname.symm.trans hname') (by decide)
    | up _ _ h' => exact ih h'
    | down hasks _ _ _ => exact absurd hname hasks.notParent
    | link hasks _ _ _ => exact absurd hname hasks.notParent
  | down hasks he hlink _ ih =>
    cases h' with
    | stay hname _ _ => exact absurd hname hasks.notCurrent
    | up hname _ _ => exact absurd hname hasks.notParent
    | down _ _ _ h' => exact ih h'
    | link _ he' _ _ =>
      rw [he] at he'
      cases he'
      cases hlink
  | link hasks he _ _ ih =>
    cases h' with
    | stay hname _ _ => exact absurd hname hasks.notCurrent
    | up hname _ _ => exact absurd hname hasks.notParent
    | down _ he' hlink' _ =>
      rw [he] at he'
      cases he'
      cases hlink'
    | link _ he' _ h' =>
      rw [he] at he'
      cases he'
      obtain ⟨hn, hl⟩ := ih h'
      exact ⟨congrArg (· + 1) hn, hl⟩

end Trail

/-! ## Trails and walks -/

variable {fs : FileSystem} {admits : Location → Bool} {here l : Location} {names : List ByteString}

/-- One step of a leg along a name that may be asked for. A link under the last name need not be followed. -/
theorem leg_cons_of_asks {name : ByteString} {rest : List ByteString} (follow : Bool)
    (h : Asks fs admits here name) :
    fs.leg follow admits here (name :: rest) =
      match fs.get? (here ++ [name]) with
      | none => if rest.isEmpty then .ok (.stop (.vacant here name)) else .error .noEntry
      | some (.link target) =>
        if rest.isEmpty && !follow then .ok (.stop (.entry (here ++ [name]) (.link target)))
        else .ok (.link here target rest)
      | some _ => fs.leg follow admits (here ++ [name]) rest := by
  have hshort := Nat.not_lt.mpr h.short
  cases he : fs.get? (here ++ [name]) with
  | none => simp [leg, he, h.isDir, h.notCurrent, h.notParent, hshort, h.admitted]
  | some e => cases e <;> simp [leg, he, h.isDir, h.notCurrent, h.notParent, hshort, h.admitted]

/-- One step of a leg that follows every link. -/
theorem leg_of_asks {name : ByteString} {rest : List ByteString} (h : Asks fs admits here name) :
    fs.leg true admits here (name :: rest) =
      match fs.get? (here ++ [name]) with
      | none => if rest.isEmpty then .ok (.stop (.vacant here name)) else .error .noEntry
      | some (.link target) => .ok (.link here target rest)
      | some _ => fs.leg true admits (here ++ [name]) rest := by
  rw [leg_cons_of_asks true h]
  cases fs.get? (here ++ [name]) with
  | none => rfl
  | some e => cases e <;> simp

/-- What a leg along a name that may be asked for can do. -/
theorem leg_cases_of_asks {name : ByteString} {rest : List ByteString} {r : Leg} (hasks : Asks fs admits here name)
    (h : fs.leg true admits here (name :: rest) = .ok r) :
    r = .stop (.vacant here name) ∨
      (∃ target, fs.get? (here ++ [name]) = some (.link target) ∧ r = .link here target rest) ∨
      ∃ e, fs.get? (here ++ [name]) = some e ∧ e.isLink = false ∧
        fs.leg true admits (here ++ [name]) rest = .ok r := by
  rw [leg_of_asks hasks] at h
  cases hg : fs.get? (here ++ [name]) with
  | none =>
    rw [hg] at h
    cases rest <;> cases h
    exact Or.inl rfl
  | some e =>
    rw [hg] at h
    cases e with
    | link target =>
      cases h
      exact Or.inr (Or.inl ⟨target, rfl, rfl⟩)
    | file content mode => exact Or.inr (Or.inr ⟨_, rfl, rfl, h⟩)
    | dir mode => exact Or.inr (Or.inr ⟨_, rfl, rfl, h⟩)
    | device => exact Or.inr (Or.inr ⟨_, rfl, rfl, h⟩)

/-- What a leg along a name can do. -/
theorem leg_cases {name : ByteString} {rest : List ByteString} {r : Leg}
    (h : fs.leg true admits here (name :: rest) = .ok r) :
    (fs.get? here).any Entry.isDir = true ∧
      ((name = "." ∧ fs.leg true admits here rest = .ok r) ∨
        (name = ".." ∧ fs.leg true admits here.dropLast rest = .ok r) ∨ Asks fs admits here name) := by
  rw [leg] at h
  by_cases hdir : (fs.get? here).any Entry.isDir = true
  · refine ⟨hdir, ?_⟩
    rw [hdir, if_neg (by decide)] at h
    by_cases hdot : name = "."
    · rw [if_pos hdot] at h
      exact Or.inl ⟨hdot, h⟩
    by_cases hdots : name = ".."
    · rw [if_neg hdot, if_pos hdots] at h
      exact Or.inr (Or.inl ⟨hdots, h⟩)
    by_cases hlong : name.length > maxNameBytes ∨ (!admits (here ++ [name])) = true
    · rw [if_neg hdot, if_neg hdots, if_pos hlong] at h
      cases h
    · rw [not_or] at hlong
      exact Or.inr (Or.inr ⟨hdir, hdot, hdots, by omega, by simpa using hlong.2⟩)
  · rw [Bool.not_eq_true] at hdir
    rw [hdir, if_pos (by decide)] at h
    cases h

/-- A leg along no names ends where it is. -/
theorem leg_nil {r : Leg} (h : fs.leg true admits here [] = .ok r) :
    ∃ e, fs.get? here = some e ∧ r = .stop (.entry here e) := by
  unfold leg at h
  cases hg : fs.get? here with
  | none =>
    rw [hg] at h
    cases h
  | some e =>
    rw [hg] at h
    cases h
    exact ⟨e, rfl, rfl⟩

/-- A leg that ends somewhere is a trail through no link. -/
theorem trail_of_leg_stop {e : Entry} (h : fs.leg true admits here names = .ok (.stop (.entry l e))) :
    Trail fs admits 0 here names l := by
  induction names generalizing here with
  | nil =>
    obtain ⟨e', he', heq⟩ := leg_nil h
    cases heq
    exact .stop he'
  | cons name rest ih =>
    obtain ⟨hdir, ⟨hname, h⟩ | ⟨hname, h⟩ | hasks⟩ := leg_cases h
    · exact .stay hname hdir (ih h)
    · exact .up hname hdir (ih h)
    · obtain heq | ⟨target, -, heq⟩ | ⟨e', he', hlink, h⟩ := leg_cases_of_asks hasks h
      · cases heq
      · cases heq
      · exact .down hasks he' hlink (ih h)

/-- A leg that ends at a link is the beginning of a trail that passes through it. -/
theorem trail_of_leg_link {dir : Location} {target : ByteString} {rest : List ByteString} {n : Nat}
    (h : fs.leg true admits here names = .ok (.link dir target rest))
    (htarget : Pathname.isPathname target = true)
    (hrest : Trail fs admits n (startOf dir target) (Pathname.parts target ++ rest) l) :
    Trail fs admits (n + 1) here names l := by
  induction names generalizing here with
  | nil =>
    obtain ⟨e, -, heq⟩ := leg_nil h
    cases heq
  | cons name more ih =>
    obtain ⟨hdir, ⟨hname, h⟩ | ⟨hname, h⟩ | hasks⟩ := leg_cases h
    · exact .stay hname hdir (ih h)
    · exact .up hname hdir (ih h)
    · obtain heq | ⟨target', he, heq⟩ | ⟨e, he, hlink, h⟩ := leg_cases_of_asks hasks h
      · cases heq
      · cases heq
        exact .link hasks he htarget hrest
      · exact .down hasks he hlink (ih h)

theorem exists_trail_of_walk {links : Nat} {e : Entry}
    (h : fs.walk true admits links here names = .ok (.entry l e)) :
    ∃ n ≤ links, Trail fs admits n here names l := by
  induction links generalizing here names with
  | zero =>
    unfold walk at h
    cases hleg : fs.leg true admits here names with
    | error e => rw [hleg] at h; cases h
    | ok r =>
      rw [hleg] at h
      cases r with
      | stop place =>
        cases h
        exact ⟨0, Nat.le_refl 0, trail_of_leg_stop hleg⟩
      | link dir target rest => cases h
  | succ links ih =>
    unfold walk at h
    cases hleg : fs.leg true admits here names with
    | error e => rw [hleg] at h; cases h
    | ok r =>
      rw [hleg] at h
      cases r with
      | stop place =>
        cases h
        exact ⟨0, Nat.zero_le _, trail_of_leg_stop hleg⟩
      | link dir target rest =>
        dsimp only at h
        by_cases htarget : Pathname.isPathname target = true
        · rw [htarget, if_neg (by decide)] at h
          obtain ⟨n, hn, htrail⟩ := ih h
          exact ⟨n + 1, Nat.succ_le_succ hn, trail_of_leg_link hleg htarget htrail⟩
        · rw [if_pos (by simpa using htarget)] at h
          cases h

/-- Walks with the same leg are the same. -/
theorem walk_eq_of_leg_eq {links : Nat} {there : Location} {more : List ByteString}
    (h : fs.leg true admits here names = fs.leg true admits there more) :
    fs.walk true admits links here names = fs.walk true admits links there more := by
  unfold walk
  rw [h]

theorem exists_walk_of_trail {n links : Nat} (h : Trail fs admits n here names l) (hn : n ≤ links) :
    ∃ e, fs.walk true admits links here names = .ok (.entry l e) := by
  induction h generalizing links with
  | @stop here e he =>
    refine ⟨e, ?_⟩
    unfold walk leg
    rw [he]
  | @stay n here l name rest hname hdir _ ih =>
    have hleg : fs.leg true admits here (name :: rest) = fs.leg true admits here rest := by
      rw [leg, hdir, if_neg (by decide), if_pos hname]
    rw [walk_eq_of_leg_eq hleg]
    exact ih hn
  | @up n here l name rest hname hdir _ ih =>
    have hleg : fs.leg true admits here (name :: rest) = fs.leg true admits here.dropLast rest := by
      rw [leg, hdir, if_neg (by decide), if_neg (hname ▸ by decide), if_pos hname]
    rw [walk_eq_of_leg_eq hleg]
    exact ih hn
  | @down n here l name rest e hasks he hlink _ ih =>
    have hleg : fs.leg true admits here (name :: rest) = fs.leg true admits (here ++ [name]) rest := by
      rw [leg_of_asks hasks, he]
      cases e with
      | link target => cases hlink
      | file content mode => rfl
      | dir mode => rfl
      | device => rfl
    rw [walk_eq_of_leg_eq hleg]
    exact ih hn
  | @link n here l name target rest hasks he htarget _ ih =>
    have hleg : fs.leg true admits here (name :: rest) = .ok (.link here target rest) := by
      rw [leg_of_asks hasks, he]
    cases links with
    | zero => omega
    | succ links =>
      obtain ⟨e, hwalk⟩ := ih (Nat.le_of_succ_le_succ hn)
      refine ⟨e, ?_⟩
      rw [walk, hleg]
      dsimp only
      rw [htarget, if_neg (by decide)]
      exact hwalk

/-- **A walk finds a location** just if a trail leads there through no more links than it may pass. -/
theorem walk_eq_entry_iff {links : Nat} :
    (∃ e, fs.walk true admits links here names = .ok (.entry l e)) ↔
      ∃ n ≤ links, Trail fs admits n here names l := by
  constructor
  · rintro ⟨e, h⟩
    exact exists_trail_of_walk h
  · rintro ⟨n, hn, h⟩
    exact exists_walk_of_trail h hn

/-- **What a path name leads to** is where the trail along its parts leads. -/
theorem canonicalize_eq_ok_iff {path : ByteString} :
    fs.canonicalize here path = .ok l ↔
      Pathname.isPathname path = true ∧
        ∃ n ≤ maxLinks, Trail fs hasShortPath n (startOf here path) (Pathname.parts path) l := by
  rw [← walk_eq_entry_iff]
  unfold canonicalize Pathname.isPathname
  by_cases hnul : path.toList.contains Pathname.nul = true
  · rw [if_pos hnul, hnul]
    simp
  by_cases hempty : path = ""
  · rw [if_neg hnul, if_pos hempty, hempty]
    simp
  rw [if_neg hnul, if_neg hempty]
  have hpathname : (path != "" && !path.toList.contains Pathname.nul) = true := by
    simpa [hempty] using hnul
  rw [hpathname]
  cases fs.walk true hasShortPath maxLinks (startOf here path) (Pathname.parts path) with
  | error e => simp
  | ok place => cases place <;> simp

/-- The trail along a path name does not leave its end by the dot that a slash stands for. -/
theorem eq_of_trail_tail {n : Nat} {t : Location} {tail : List ByteString}
    (h : Trail fs admits n l tail t) (htail : tail = [] ∨ tail = [("." : ByteString)]) : t = l := by
  rcases htail with rfl | rfl
  · cases h
    rfl
  · cases h with
    | stay _ _ h =>
      cases h
      rfl
    | up hname _ _ => exact absurd hname (by decide)
    | down hasks _ _ _ => exact absurd rfl hasks.notCurrent
    | link hasks _ _ _ => exact absurd rfl hasks.notCurrent

/-- A path name leads to where its names lead. -/
theorem exists_trail_names {path : ByteString} (h : fs.canonicalize here path = .ok l) :
    ∃ n ≤ maxLinks, Trail fs hasShortPath n (startOf here path)
      (Pathname.names path) l := by
  obtain ⟨-, n, hn, htrail⟩ := canonicalize_eq_ok_iff.mp h
  obtain ⟨tail, hparts, htail⟩ := Pathname.parts_eq path
  rw [hparts] at htrail
  obtain ⟨i, j, t, hij, hi, hj⟩ := htrail.exists_of_append
  rw [eq_of_trail_tail hj htail]
  exact ⟨i, by omega, hi⟩

theorem startOf_eq_of_isAbsolute_eq {path other : ByteString}
    (h : Pathname.isAbsolute other = Pathname.isAbsolute path) :
    startOf here other = startOf here path := by
  unfold startOf
  rw [h]

end Checkout.FileSystem
