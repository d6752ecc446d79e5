import Checkout.Proofs.FileSystem.Descent
import Checkout.Proofs.FileSystem.Tree
import Checkout.SymlinkAudit
import Mathlib.Logic.Relation

/-!
# Links seen from a root

A link below the root is resolved by its path name as seen through the path name of the root. The walk passes
the links that lead to the root first, and goes on from the root with fewer links left. So another path name of
the same root makes a difference only if the links run out, and a link that comes back to itself is resolved
under none: the trail would have to be longer than itself.

Results:
* `canonicalize_pathBelow_eq`: how what is below a root is resolved;
* `canonicalize_pathBelow_absolutePath`: under the real path of the root it is resolved alike;
* `Cyclic.not_trail`: a link that comes back to itself leads nowhere.
-/

namespace Checkout.FileSystem

variable {fs : FileSystem} {admits : Location → Bool} {follow : Bool} {here l dir : Location} {n links : Nat}
  {names rest : List ByteString} {path target : ByteString} {e : Entry}

/-! ## Links left over -/

/-- **More links do not matter** to a walk that does not run out of them. -/
theorem walk_add_links (h : fs.walk follow admits links here names ≠ .error .tooManyLinks) (more : Nat) :
    fs.walk follow admits (links + more) here names = fs.walk follow admits links here names := by
  induction links generalizing here names with
  | zero =>
    rw [Nat.zero_add]
    unfold walk at h ⊢
    cases hleg : fs.leg follow admits here names with
    | error e => rfl
    | ok r =>
      cases r with
      | stop place => rfl
      | link dir target rest => simp [hleg] at h
  | succ links ih =>
    rw [Nat.add_right_comm]
    unfold walk at h ⊢
    cases hleg : fs.leg follow admits here names with
    | error e => rfl
    | ok r =>
      cases r with
      | stop place => rfl
      | link dir target rest =>
        rw [hleg] at h
        dsimp only at h ⊢
        split
        · rfl
        · rename_i htarget
          rw [if_neg htarget] at h
          exact ih h

/-- The location at the end of a walk. -/
def ending : Except Errno Place → Except IoError Location
  | .ok (.entry l _) => .ok l
  | .ok (.vacant _ _) => .error (.os .noEntry)
  | .error e => .error (.os e)

theorem canonicalize_of_isPathname (h : Pathname.isPathname path = true) :
    fs.canonicalize here path =
      ending (fs.walk true hasShortPath maxLinks (startOf here path) (Pathname.parts path)) := by
  obtain ⟨hne, hnul⟩ := Pathname.isPathname_iff.mp h
  unfold canonicalize ending
  exact (if_neg (by simpa using hnul)).trans (if_neg hne)

theorem ne_tooManyLinks_of_ending {r : Except Errno Place}
    (h : ending r ≠ .error (.os .tooManyLinks)) : r ≠ .error .tooManyLinks := by
  rintro rfl
  exact h rfl

/-! ## Links that come back -/

/-- One link of a walk comes next after another. Of each there are given the directory, the target and the names
left to follow. -/
def NextLink (fs : FileSystem) (admits : Location → Bool)
    (x y : Location × ByteString × List ByteString) : Prop :=
  fs.leg true admits (startOf x.1 x.2.1) (Pathname.parts x.2.1 ++ x.2.2) = .ok (.link y.1 y.2.1 y.2.2)

/-- A link comes back to itself. -/
def Cyclic (fs : FileSystem) (admits : Location → Bool) (dir : Location) (target : ByteString) : Prop :=
  ∃ rest, Relation.TransGen (NextLink fs admits) (dir, target, []) (dir, target, rest)

/-- A trail whose first leg ends at a link passes through it. -/
theorem Trail.of_leg_link (h : Trail fs admits n here names l)
    (hleg : fs.leg true admits here names = .ok (.link dir target rest)) :
    ∃ k < n, Trail fs admits k (startOf dir target) (Pathname.parts target ++ rest) l := by
  induction h with
  | stop he =>
    rw [leg, he] at hleg
    cases hleg
  | stay hname hdir _ ih =>
    rw [leg, hdir, if_neg (by decide), if_pos hname] at hleg
    exact ih hleg
  | up hname hdir _ ih =>
    rw [leg, hdir, if_neg (by decide), if_neg (hname ▸ by decide), if_pos hname] at hleg
    exact ih hleg
  | down hasks he hlink _ ih =>
    obtain heq | ⟨target', he', -⟩ | ⟨e, -, -, hleg⟩ := leg_cases_of_asks hasks hleg
    · cases heq
    · rw [he] at he'
      cases he'
      cases hlink
    · exact ih hleg
  | @link n here l name target rest hasks he _ h _ =>
    rw [leg_of_asks hasks, he] at hleg
    cases hleg
    exact ⟨n, n.lt_succ_self, h⟩

/-- From link to link a trail gets shorter. -/
theorem Trail.of_nextLinks {x y : Location × ByteString × List ByteString}
    (hnext : Relation.TransGen (NextLink fs admits) x y)
    (h : Trail fs admits n (startOf x.1 x.2.1) (Pathname.parts x.2.1 ++ x.2.2) l) :
    ∃ k < n, Trail fs admits k (startOf y.1 y.2.1) (Pathname.parts y.2.1 ++ y.2.2) l := by
  induction hnext with
  | single hstep => exact h.of_leg_link hstep
  | tail _ hstep ih =>
    obtain ⟨k, hk, hmid⟩ := ih
    obtain ⟨j, hj, hend⟩ := hmid.of_leg_link hstep
    exact ⟨j, Nat.lt_trans hj hk, hend⟩

/-- **A link that comes back to itself leads nowhere**: a trail through it would be part of a shorter one. -/
theorem Cyclic.not_trail (h : Cyclic fs admits dir target) :
    ¬ Trail fs admits n (startOf dir target) (Pathname.parts target) l := by
  intro htrail
  obtain ⟨rest, hnext⟩ := h
  have hall : Trail fs admits n (startOf dir target) (Pathname.parts target ++ []) l := by
    rwa [List.append_nil]
  obtain ⟨k, hk, hagain⟩ := Trail.of_nextLinks hnext hall
  obtain ⟨i, j, t, hij, hi, -⟩ := hagain.exists_of_append
  have hsame := (hi.unique htrail).1
  omega

/-- On the way to an entry there are directories only. -/
theorem WellFormed.not_linkOnWay {base : Location} {name : ByteString} (h : fs.WellFormed)
    (he : fs.get? (base ++ names ++ [name]) = some e) : ¬ LinkOnWay fs base names := by
  rintro ⟨front, target, -, ⟨more, rfl⟩, hlink⟩
  obtain ⟨next, hfront⟩ : ∃ next, base ++ front ++ [next] <+: base ++ (front ++ more) ++ [name] := by
    cases more with
    | nil => exact ⟨name, by simp⟩
    | cons next more => exact ⟨next, more ++ [name], by simp⟩
  obtain ⟨e', he'⟩ := Option.ne_none_iff_exists'.mp (h.closed.get?_ne_none hfront (by rw [he]; simp))
  obtain ⟨mode, hdir⟩ := h.get?_parent he'
  rw [hlink] at hdir
  cases hdir

/-- **A trail down to what holds an entry** ends there. -/
theorem WellFormed.eq_of_trail {base : Location} {name : ByteString} (h : fs.WellFormed) (hnamed : fs.Named)
    (he : fs.get? (base ++ names ++ [name]) = some e) (htrail : Trail fs admits n base names l) :
    l = base ++ names := by
  have hordinary : ∀ x ∈ names, Ordinary x := fun x hx => hnamed.location he x (by simp [hx])
  have hkept : names.filter (· ≠ ("." : ByteString)) = names :=
    List.filter_eq_self.mpr fun x hx => by simpa using (hordinary x hx).notCurrent
  rcases htrail.descend fun hup => (hordinary _ hup).notParent rfl with hdown | hlink
  · rw [hdown, hkept]
  · rw [hkept] at hlink
    exact absurd hlink (h.not_linkOnWay he)

/-! ## The real path of a location -/

theorem WellFormed.reached (h : fs.WellFormed) (hnamed : fs.Named) (he : fs.get? l = some e)
    (hsize : ∀ name ∈ l, name.length ≤ maxNameBytes) : Reached fs l where
  ordinary name hname := ⟨hnamed.location he name hname, hsize name hname⟩
  dirs k hk := by
    have hfront : l.take k ++ [l[k]] <+: l := by
      rw [List.take_append_getElem]
      exact List.take_prefix _ l
    have hthere := h.closed.get?_ne_none hfront (by simp [he])
    obtain ⟨e', he'⟩ := Option.ne_none_iff_exists'.mp hthere
    obtain ⟨mode, hdir⟩ := h.get?_parent he'
    simp [hdir, Entry.isDir]

theorem length_join_le {base name : ByteString} (h : Pathname.isAbsolute name = false) :
    base.length ≤ (Pathname.join base name).length := by
  unfold Pathname.join
  rw [h, if_neg (by decide)]
  split <;> simp only [ByteString.length_append] <;> omega

/-- What holds a location has a path name that is no longer. -/
theorem hasShortPath_of_prefix {front : Location} (h : hasShortPath l = true) (hfront : front <+: l)
    (hplain : ∀ name ∈ l, Pathname.Plain name) : hasShortPath front = true := by
  obtain ⟨more, rfl⟩ := hfront
  have hle : ∀ (base : ByteString) (names : List ByteString), (∀ name ∈ names, Pathname.Plain name) →
      base.length ≤ (names.foldl Pathname.join base).length := by
    intro base names hnames
    induction names generalizing base with
    | nil => exact Nat.le_refl _
    | cons name names ih =>
      have hrel := Pathname.not_isAbsolute_of_plain (hnames name List.mem_cons_self)
      exact Nat.le_trans (length_join_le hrel) (ih _ fun x hx => hnames x (List.mem_cons_of_mem _ hx))
  unfold hasShortPath at h ⊢
  rw [absolutePath_append hplain] at h
  have hmore := hle (absolutePath front) more fun x hx => hplain x (List.mem_append_right _ hx)
  exact decide_eq_true (Nat.le_trans hmore (of_decide_eq_true h))

theorem names_absolutePath (h : ∀ name ∈ l, Pathname.Plain name) : Pathname.names (absolutePath l) = l := by
  have hroot : ("/" : ByteString) ≠ "" := by decide
  have hnone : Pathname.names "/" = [] := by decide
  rw [absolutePath_eq h, (Pathname.foldl_join_spec hroot h).2.1, hnone, List.nil_append]

theorem isPathname_absolutePath (h : ∀ name ∈ l, Pathname.Plain name) :
    Pathname.isPathname (absolutePath l) = true := by
  have hroot : ("/" : ByteString) ≠ "" := by decide
  obtain ⟨hne, -, -, hnul⟩ := Pathname.foldl_join_spec hroot h
  rw [← absolutePath_eq h] at hne hnul
  exact Pathname.isPathname_iff.mpr ⟨hne, hnul (by decide)⟩

/-- **The real path of a location leads there** through no link. -/
theorem trail_absolutePath (here : Location) (h : Reached fs l) (hshort : hasShortPath l = true)
    (he : fs.get? l = some e) (hlink : e.isLink = false) :
    Trail fs hasShortPath 0 (startOf here (absolutePath l)) (Pathname.names (absolutePath l)) l := by
  have hplain : ∀ name ∈ l, Pathname.Plain name := fun name hname => (h.ordinary name hname).1.plain
  rw [startOf_absolutePath hplain, names_absolutePath hplain]
  refine trail_of_reached [] h.ordinary (by simpa using h.dirs) (fun k => ?_) (by simpa using he) hlink
  exact hasShortPath_of_prefix hshort (List.take_prefix k l) hplain

theorem canonicalize_absolutePath (here : Location) (h : Reached fs l) (hshort : hasShortPath l = true)
    (he : fs.get? l = some e) (hlink : e.isLink = false) :
    fs.canonicalize here (absolutePath l) = .ok l := by
  have hplain : ∀ name ∈ l, Pathname.Plain name := fun name hname => (h.ordinary name hname).1.plain
  have htrail := trail_absolutePath here h hshort he hlink
  rw [names_absolutePath hplain] at htrail
  refine canonicalize_eq_ok_iff.mpr ⟨isPathname_absolutePath hplain, 0, Nat.zero_le _, ?_⟩
  rwa [parts_absolutePath hplain]

end Checkout.FileSystem

namespace Checkout.SymlinkAudit

open FileSystem (Trail ending maxLinks hasShortPath startOf absolutePath)

variable {fs : FileSystem} {here root : Location} {path : ByteString}

/-- What is below a root is resolved from the root, with the links left over that did not lead there. -/
theorem canonicalize_pathBelow_eq {a : Nat} {below : List ByteString} {name : ByteString}
    (hpath : Pathname.isPathname path = true)
    (hroot : Trail fs hasShortPath a (startOf here path) (Pathname.names path) root) (ha : a ≤ maxLinks)
    (hplain : ∀ x ∈ below ++ [name], Pathname.Plain x) :
    fs.canonicalize here (pathBelow root path (root ++ (below ++ [name]))) =
      ending (fs.walk true hasShortPath (maxLinks - a) root (below ++ [name])) := by
  obtain ⟨hne, hnul⟩ := Pathname.isPathname_iff.mp hpath
  obtain ⟨hne', -, habs, hnul'⟩ := Pathname.foldl_join_spec hne hplain
  unfold pathBelow
  rw [List.drop_left,
    FileSystem.canonicalize_of_isPathname (Pathname.isPathname_iff.mpr ⟨hne', hnul' hnul⟩),
    FileSystem.startOf_eq_of_isAbsolute_eq habs, Pathname.parts_foldl_join hne hplain,
    FileSystem.walk_append hroot ha (by simp)]

/-- **Under the real path of the root** a link is resolved as under another path name that does not run out of
links. -/
theorem canonicalize_pathBelow_absolutePath {below : List ByteString} {name : ByteString}
    (hroot : fs.canonicalize here path = .ok root)
    (hpath' : Pathname.isPathname (absolutePath root) = true)
    (hreal : Trail fs hasShortPath 0 (startOf here (absolutePath root))
      (Pathname.names (absolutePath root)) root)
    (hplain : ∀ x ∈ below ++ [name], Pathname.Plain x)
    (hfew : fs.canonicalize here (pathBelow root path (root ++ (below ++ [name]))) ≠
      .error (.os .tooManyLinks)) :
    fs.canonicalize here (pathBelow root (absolutePath root) (root ++ (below ++ [name]))) =
      fs.canonicalize here (pathBelow root path (root ++ (below ++ [name]))) := by
  have hpath := (FileSystem.canonicalize_eq_ok_iff.mp hroot).1
  obtain ⟨a, ha, htrail⟩ := FileSystem.exists_trail_names hroot
  rw [canonicalize_pathBelow_eq hpath htrail ha hplain] at hfew ⊢
  rw [canonicalize_pathBelow_eq hpath' hreal (Nat.zero_le _) hplain,
    ← FileSystem.walk_add_links (FileSystem.ne_tooManyLinks_of_ending hfew) a, Nat.sub_zero,
    Nat.sub_add_cancel ha]

end Checkout.SymlinkAudit
