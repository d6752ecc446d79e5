import Checkout.Proofs.Execution
import Checkout.Proofs.FileSystem.Making
import Checkout.Workspace

/-!
# Emptying a directory

The directory is looked up once, and then one entry after another is removed under the path name that it has
from there. What goes is below the directory, whatever the outcome. All of it goes if every path name is
short enough and none leads through what is removed: the path name of the directory must lead there also when
the directory is empty. A path name such as `dir/inner/..` does not.

Results:
* `exec_clean`: what the path name leads to decides what is done;
* `exec_removeNames`: the run of the loop, by induction on the names;
* `clean_effect`: what emptying a directory does, once and twice and before it is made again.
-/

namespace Checkout.Workspace

open FileSystem (Pruned Ordinary Fits LeadsToEmptyDir isBelow startOf)

variable {ρ : Type} {m : Machine ρ} {fs : FileSystem} {l : Location} {path : ByteString} {mode : Nat}
  {names : List ByteString} {kind : ByteString → Bool}

/-! ## What is decided first -/

/-- The line of the log for a directory that is emptied. -/
def cleaningRecord (path : ByteString) : Record :=
  ⟨.info, .workspace, s!"Cleaning existing checkout directory: {path}"⟩

/-- What is said if there is no directory to empty. -/
def notDirectory (path : ByteString) : Error :=
  .validation s!"checkout path exists but is not a directory: {path}"

/-- **Emptying a directory**: what it does is decided by what the path name leads to. -/
theorem exec_clean (path : ByteString) (m : Machine ρ) :
    (clean path).exec m =
      match m.files.locate m.workDir path with
      | .error (.os .noEntry) => (.ok (), m)
      | .error e => (.error (.io e), m)
      | .ok (l, e) =>
        if e.isDir then (removeChildren m.files l path).exec (m.noting [cleaningRecord path])
        else (.error (notDirectory path), m) := by
  unfold clean
  rw [Run.exec_bind_ok (Run.exec_get m)]
  cases m.files.locate m.workDir path with
  | error e =>
    cases e with
    | os errno => cases errno <;> rfl
    | _ => rfl
  | ok found =>
    obtain ⟨l, e⟩ := found
    dsimp only
    by_cases hdir : e.isDir = true
    · rw [if_neg (by simp [hdir]), if_pos hdir]
      exact Run.exec_bind_ok (Run.exec_write _ _ _ m)
    · rw [if_pos (by simpa using hdir), if_neg hdir]
      rfl

theorem exec_clean_of_not_dir {e : Entry} (hfound : m.files.locate m.workDir path = .ok (l, e))
    (hdir : e.isDir = false) : (clean path).exec m = (.error (notDirectory path), m) := by
  simp [exec_clean, hfound, hdir]

theorem exec_clean_of_dir (hfound : m.files.locate m.workDir path = .ok (l, .dir mode)) :
    (clean path).exec m = (removeChildren m.files l path).exec (m.noting [cleaningRecord path]) := by
  simp [exec_clean, hfound, Entry.isDir]

theorem exec_clean_of_error {e : IoError} (hfails : m.files.locate m.workDir path = .error e)
    (hother : e ≠ .os .noEntry) : (clean path).exec m = (.error (.io e), m) := by
  rw [exec_clean, hfails]
  cases e with
  | os errno => cases errno <;> first | rfl | exact absurd rfl hother
  | _ => rfl

theorem exec_clean_of_noEntry (hmissing : m.files.locate m.workDir path = .error (.os .noEntry)) :
    (clean path).exec m = (.ok (), m) := by
  simp [exec_clean, hmissing]

/-! ## One entry after another -/

/-- Removes what stands under names in a directory; `kind` says which of it are directories. -/
def removeNames (kind : ByteString → Bool) (path : ByteString) (names : List ByteString) : Run ρ Unit :=
  names.forM fun name =>
    Run.alter fun files here => files.removeEntry here (kind name) (Pathname.join path name)

theorem removeChildren_eq (files : FileSystem) (l : Location) (path : ByteString) :
    removeChildren (ρ := ρ) files l path =
      removeNames (fun name => (files.get? (l ++ [name])).any Entry.isDir) path (files.childNames l) := rfl

theorem exec_removeNames_cons {name : ByteString} (m : Machine ρ) :
    (removeNames kind path (name :: names)).exec m =
      match m.files.removeEntry m.workDir (kind name) (Pathname.join path name) with
      | .ok files => (removeNames kind path names).exec { m with files := files }
      | .error e => (.error (.io e), m) := by
  change (Run.alter _ >>= fun _ => removeNames kind path names).exec m = _
  rw [Run.exec_bind, Run.exec_alter]
  cases m.files.removeEntry m.workDir (kind name) (Pathname.join path name) <;> rfl

/-- What a run has done that removes names in a directory: nothing but to remove something below it. -/
structure Removed (fs : FileSystem) (l : Location) (names : List ByteString) (path : ByteString) (m : Machine ρ)
    (r : Except Error Unit × Machine ρ) : Prop where
  machine : r.2 = { m with files := r.2.files }
  outcome : r.1 = .ok () ∨ ∃ e, r.1 = .error (.io e)
  pruned : Pruned l m.files r.2.files
  closed : m.files.Closed → r.2.files.Closed
  /-- A run that ended well has removed all names, or the path name leads nowhere any more. -/
  gone : r.1 = .ok () → ∀ found, r.2.files.locate m.workDir path = .ok found →
    ∀ name ∈ names, r.2.files.get? (l ++ [name]) = none

theorem Removed.workDir {r : Except Error Unit × Machine ρ} (h : Removed fs l names path m r) :
    r.2.workDir = m.workDir := by
  rw [h.machine]

/-- **Removing names in a directory** removes what is below it, whatever the outcome. -/
theorem exec_removeNames (hdir : fs.locate m.workDir path = .ok (l, .dir mode))
    (hnames : ∀ name ∈ names, Ordinary name) (hpruned : Pruned l fs m.files) :
    Removed fs l names path m ((removeNames kind path names).exec m) := by
  induction names generalizing m with
  | nil =>
    exact ⟨rfl, Or.inl rfl, .refl l _, id, fun _ _ _ name hname => absurd hname List.not_mem_nil⟩
  | cons name names ih =>
    have hname := hnames name List.mem_cons_self
    rw [exec_removeNames_cons]
    cases hremoved : m.files.removeEntry m.workDir (kind name) (Pathname.join path name) with
    | error e => exact ⟨rfl, Or.inr ⟨e, rfl⟩, .refl l _, id, fun h => by cases h⟩
    | ok files =>
      have hstep := hpruned.removeEntry hdir hname hremoved
      have hrest := ih (m := { m with files := files }) hdir
        (fun x hx => hnames x (List.mem_cons_of_mem _ hx)) (hpruned.trans hstep)
      refine ⟨hrest.machine, hrest.outcome, hstep.trans hrest.pruned, fun hclosed => hrest.closed ?_,
        fun hok found hfound x hx => ?_⟩
      · obtain rfl | ⟨rfl, -⟩ := hpruned.removeEntry_cases hdir hname hremoved
        · exact hclosed.remove (by simp)
        · exact hclosed.removeBelow _
      · rcases List.mem_cons.mp hx with rfl | hx
        · exact hpruned.get?_of_removeEntry hdir hname hremoved hrest.pruned hfound
        · exact hrest.gone hok found hfound x hx

/-- **Removing names in a directory** to which the path name also leads when it is empty: all of them go if
their path names are short enough. -/
theorem exec_removeNames_of_empty
    (hempty : (fs.removeBelow l).locate m.workDir path = .ok (l, .dir mode))
    (hnames : ∀ name ∈ names, Ordinary name) (hnodup : names.Nodup) (hpruned : Pruned l fs m.files)
    (hthere : ∀ name ∈ names, ∃ e, m.files.get? (l ++ [name]) = some e ∧ kind name = e.isDir) :
    (removeNames kind path names).exec m =
      (if ∀ name ∈ names, Fits path name then .ok () else .error (.io (.os .nameTooLong)),
        { m with files :=
            (names.takeWhile (Fits path ·)).foldl (fun fs name => fs.remove (l ++ [name])) m.files }) := by
  induction names generalizing m with
  | nil => simp [removeNames]
  | cons name names ih =>
    obtain ⟨hfresh, hnodup⟩ := List.nodup_cons.mp hnodup
    obtain ⟨e, he, hkind⟩ := hthere name List.mem_cons_self
    have hname := hnames name List.mem_cons_self
    have hremoved := FileSystem.removeEntry_join (hpruned.locate_of_empty hempty) hname he
      ((hpruned.trans (.removeBelow _ (FileSystem.isBelow_concat l name))).locate_of_empty hempty)
    rw [exec_removeNames_cons, hkind, hremoved]
    by_cases hfits : Fits path name
    · rw [if_pos hfits]
      dsimp only
      rw [ih (m := { m with files := m.files.remove (l ++ [name]) }) hempty
        (fun x hx => hnames x (List.mem_cons_of_mem _ hx)) hnodup
        (hpruned.trans (.remove _ (FileSystem.isBelow_concat l name))) fun x hx => ?_]
      · simp [hfits]
      · obtain ⟨e', he', hkind'⟩ := hthere x (List.mem_cons_of_mem _ hx)
        refine ⟨e', ?_, hkind'⟩
        dsimp only
        rw [FileSystem.get?_remove (by simp), if_neg fun hfront => ?_, he']
        have hsame := (List.isPrefixOf_iff_prefix.mp hfront).eq_of_length (by simp)
        have hx' : name = x := by simpa using hsame
        exact hfresh (hx' ▸ hx)
    · rw [if_neg hfits]
      simp [hfits]

/-! ## The whole -/

/-- A path name leads to a directory, and leads there also when the directory is empty. -/
def Unobstructed (fs : FileSystem) (here : Location) (path : ByteString) : Prop :=
  ∃ l mode, fs.locate here path = .ok (l, .dir mode) ∧
    (fs.removeBelow l).locate here path = .ok (l, .dir mode)

section Whole

variable (hwell : m.files.WellFormed) (hnamed : m.files.Named)

include hnamed

/-- **What emptying a directory does**, whatever the outcome: something below it is removed. -/
theorem removed_clean (hfound : m.files.locate m.workDir path = .ok (l, .dir mode)) :
    Removed m.files l (m.files.childNames l) path (m.noting [cleaningRecord path]) ((clean path).exec m) := by
  rw [exec_clean_of_dir hfound, removeChildren_eq]
  exact exec_removeNames (m := m.noting [cleaningRecord path]) hfound (fun _ hname => hnamed.childNames hname)
    (.refl l m.files)

include hwell

/-- **A directory is emptied**, if its path name leads there also when it is empty and all path names are
short enough. -/
theorem exec_clean_of_empty (hfound : m.files.locate m.workDir path = .ok (l, .dir mode))
    (hempty : (m.files.removeBelow l).locate m.workDir path = .ok (l, .dir mode)) :
    ((clean path).exec m).1 = (if ∀ name ∈ m.files.childNames l, Fits path name then .ok ()
        else .error (.io (.os .nameTooLong))) ∧
      ((∀ name ∈ m.files.childNames l, Fits path name) →
        ((clean path).exec m).2.files = m.files.removeBelow l) := by
  have hthere : ∀ name ∈ m.files.childNames l, ∃ e, m.files.get? (l ++ [name]) = some e ∧
      (m.files.get? (l ++ [name])).any Entry.isDir = e.isDir := by
    intro name hname
    obtain ⟨e, he⟩ := Option.ne_none_iff_exists'.mp (FileSystem.mem_childNames_iff.mp hname)
    exact ⟨e, he, by rw [he]; rfl⟩
  rw [exec_clean_of_dir hfound, removeChildren_eq,
    exec_removeNames_of_empty (m := m.noting [cleaningRecord path]) hempty
      (fun _ hname => hnamed.childNames hname) (hwell.nodup_childNames l) (.refl l m.files) hthere]
  refine ⟨rfl, fun hfits => ?_⟩
  have hall : (m.files.childNames l).takeWhile (Fits path ·) = m.files.childNames l := by
    rw [List.takeWhile_eq_self_iff]
    exact fun name hname => decide_eq_true (hfits name hname)
  dsimp only
  rw [hall]
  exact FileSystem.foldl_remove_childNames hwell l

/-- After a run that ended well the path name leads nowhere, or to the directory, which is empty. -/
theorem get?_of_clean_ok {n : Machine ρ} {found : Location × Entry} {at_ : Location}
    (hfound : m.files.locate m.workDir path = .ok (l, .dir mode)) (hclean : (clean path).exec m = (.ok (), n))
    (hagain : n.files.locate m.workDir path = .ok found) (hat : isBelow l at_ = true) :
    n.files.get? at_ = none := by
  have hremoved := removed_clean hnamed hfound
  rw [hclean] at hremoved
  have hclosed := hremoved.closed hwell.closed
  cases he : n.files.get? at_ with
  | none => rfl
  | some e =>
    have hthere : m.files.get? at_ ≠ none := by
      have hold : m.files.get? at_ = some e := hremoved.pruned.old at_ e he
      rw [hold]
      exact Option.some_ne_none e
    obtain ⟨name, hname, hfront⟩ := (hwell.closed.isBelow_iff hthere).mp hat
    have hgone := hclosed _ _ hfront (hremoved.gone rfl found hagain name hname)
    rw [he] at hgone
    cases hgone

/-- **To empty a directory twice** is to empty it once. -/
theorem exec_clean_twice
    (hstart : ∀ l mode, m.files.locate m.workDir path = .ok (l, .dir mode) →
      isBelow l (startOf m.workDir path) = false) :
    ((do clean path; clean path : Run ρ Unit).exec m).1 = ((clean path).exec m).1 ∧
      ((do clean path; clean path : Run ρ Unit).exec m).2.files = ((clean path).exec m).2.files := by
  cases hfound : m.files.locate m.workDir path with
  | error e =>
    by_cases hmissing : e = .os .noEntry
    · subst hmissing
      have hclean := exec_clean_of_noEntry hfound
      rw [Run.exec_bind_ok hclean]
      exact ⟨rfl, rfl⟩
    · have hclean := exec_clean_of_error hfound hmissing
      rw [Run.exec_bind_error hclean, hclean]
      exact ⟨rfl, rfl⟩
  | ok found =>
    obtain ⟨l, e⟩ := found
    cases hkind : e.isDir with
    | false =>
      have hclean := exec_clean_of_not_dir hfound hkind
      rw [Run.exec_bind_error hclean, hclean]
      exact ⟨rfl, rfl⟩
    | true =>
      obtain ⟨mode, rfl⟩ : ∃ mode, e = .dir mode := by
        cases e <;> first | exact ⟨_, rfl⟩ | cases hkind
      have hremoved := removed_clean hnamed hfound
      cases hclean : (clean path).exec m with
      | mk o n =>
        rw [hclean] at hremoved
        cases o with
        | error e =>
          rw [Run.exec_bind_error hclean]
          exact ⟨rfl, rfl⟩
        | ok _ =>
          rw [Run.exec_bind_ok hclean]
          have hhere : n.workDir = m.workDir := hremoved.workDir
          obtain hagain | hnothing := hremoved.pruned.locate_eq_noEntry (hremoved.closed hwell.closed)
            (hstart l mode hfound) hfound
          · -- The directory is still found, so nothing is left in it.
            have hnone : n.files.childNames l = [] := by
              rw [List.eq_nil_iff_forall_not_mem]
              intro name hname
              exact FileSystem.mem_childNames_iff.mp hname
                (get?_of_clean_ok hwell hnamed hfound hclean hagain (FileSystem.isBelow_concat l name))
            rw [← hhere] at hagain
            rw [exec_clean_of_dir hagain, removeChildren_eq, hnone]
            exact ⟨rfl, rfl⟩
          · rw [← hhere] at hnothing
            rw [exec_clean_of_noEntry hnothing]
            exact ⟨rfl, rfl⟩

/-- **A directory that is emptied and made** is an empty directory, if its path name led to it also when it was
empty, or if it was missing and its path name has no double dots. -/
theorem leadsToEmptyDir_of_clean_prepare {m' : Machine ρ}
    (hdone : (do clean path; prepare path : Run ρ Unit).exec m = (.ok (), m'))
    (hpath : Unobstructed m.files m.workDir path ∨
      m.files.locate m.workDir path = .error (.os .noEntry) ∧ path ≠ "" ∧
        (".." : ByteString) ∉ Pathname.names path) : LeadsToEmptyDir m'.files m'.workDir path := by
  obtain ⟨⟨⟩, n, hclean, hmade⟩ := Run.exec_bind_eq_ok hdone
  unfold prepare at hmade
  rw [Run.exec_makeDirs] at hmade
  obtain ⟨hended, rfl⟩ := Prod.mk.inj hmade
  rcases hpath with ⟨l, mode, hfound, hempty⟩ | ⟨hmissing, hne, hup⟩
  · have hremoved := removed_clean hnamed hfound
    rw [hclean] at hremoved
    have hhere : n.workDir = m.workDir := hremoved.workDir
    have hagain := hremoved.pruned.locate_of_empty hempty
    have hagain' := hhere ▸ hagain
    rw [FileSystem.makeDirs_of_locate hagain']
    exact ⟨l, mode, hagain', fun at_ hat => get?_of_clean_ok hwell hnamed hfound hclean hagain hat⟩
  · rw [exec_clean_of_noEntry hmissing] at hclean
    cases hclean
    refine FileSystem.makeDirs_fresh hwell.closed hne hup ?_ (Prod.ext rfl ?_)
    · unfold FileSystem.isDir
      rw [hmissing]
    · cases hfailure : (m.files.makeDirs m.workDir path).2 with
      | none => rfl
      | some e =>
        rw [hfailure] at hended
        cases hended

end Whole

/-- **Emptying the directory of a checkout.** A path name that leads to nothing leaves everything as it is;
one that cannot be looked up, or leads to something that is no directory, is an error and leaves everything as
it is. Otherwise a line is logged and, whatever the outcome, nothing is changed but that entries below the
directory are gone. All of them are, and the run ends well, if the path name leads to the directory also when it
is empty and the path names of the entries are short enough; if one is too long, that is the error. To do it
twice is to do it once, as long as the path name does not start below the directory. And if the directory is
then made without an error, it is an empty directory, provided that its path name led there also when it was
empty; or that it was missing, and its path name is not empty and has no double dots. -/
theorem clean_effect (path : ByteString) (m : Machine ρ) (hwell : m.files.WellFormed)
    (hnamed : m.files.Named) :
    (m.files.locate m.workDir path = .error (.os .noEntry) → (clean path).exec m = (.ok (), m)) ∧
    (∀ e, m.files.locate m.workDir path = .error e → e ≠ .os .noEntry →
      (clean path).exec m = (.error (.io e), m)) ∧
    (∀ l e, m.files.locate m.workDir path = .ok (l, e) → e.isDir = false →
      (clean path).exec m = (.error (notDirectory path), m)) ∧
    (∀ l mode, m.files.locate m.workDir path = .ok (l, .dir mode) →
      ∃ o files, (clean path).exec m = (o, { m.noting [cleaningRecord path] with files := files }) ∧
        (o = .ok () ∨ ∃ e, o = .error (.io e)) ∧
        (∀ at_, isBelow l at_ = false → files.get? at_ = m.files.get? at_) ∧
        (∀ at_ e, files.get? at_ = some e → m.files.get? at_ = some e) ∧
        ((m.files.removeBelow l).locate m.workDir path = .ok (l, .dir mode) →
          o = (if ∀ name ∈ m.files.childNames l, Fits path name then .ok ()
            else .error (.io (.os .nameTooLong))) ∧
          (o = .ok () → files = m.files.removeBelow l))) ∧
    ((∀ l mode, m.files.locate m.workDir path = .ok (l, .dir mode) →
        isBelow l (startOf m.workDir path) = false) →
      ((do clean path; clean path : Run ρ Unit).exec m).1 = ((clean path).exec m).1 ∧
        ((do clean path; clean path : Run ρ Unit).exec m).2.files = ((clean path).exec m).2.files) ∧
    ∀ m', (do clean path; prepare path : Run ρ Unit).exec m = (.ok (), m') →
      (Unobstructed m.files m.workDir path ∨ m.files.locate m.workDir path = .error (.os .noEntry) ∧
        path ≠ "" ∧ (".." : ByteString) ∉ Pathname.names path) →
      LeadsToEmptyDir m'.files m'.workDir path := by
  refine ⟨exec_clean_of_noEntry, fun e => exec_clean_of_error, fun l e => exec_clean_of_not_dir,
    fun l mode hfound => ?_, exec_clean_twice hwell hnamed,
    fun m' => leadsToEmptyDir_of_clean_prepare hwell hnamed⟩
  have hremoved := removed_clean hnamed hfound
  refine ⟨_, _, Prod.ext rfl hremoved.machine, hremoved.outcome, hremoved.pruned.same, hremoved.pruned.old,
    fun hempty => ?_⟩
  obtain ⟨hended, hall⟩ := exec_clean_of_empty hwell hnamed hfound hempty
  refine ⟨hended, fun hok => hall ?_⟩
  by_contra hlong
  have hfails := hended.symm.trans hok
  rw [if_neg hlong] at hfails
  cases hfails

/-- A directory with a file, a directory and links out of it and back into it. -/
theorem clean_effect_of_links :
    let m : Machine Unit := { Machine.bare () with
      files := ⟨[(["work"], .dir 0o755), (["work", "kept"], .file [107] 0o644),
        (["work", "out"], .dir 0o755), (["work", "out", "file"], .file [0] 0o644),
        (["work", "out", "away"], .link "../kept"), (["work", "out", "sub"], .dir 0o755),
        (["work", "out", "sub", "back"], .link "..")]⟩ }
    let emptied : FileSystem := ⟨[(["work"], .dir 0o755), (["work", "kept"], .file [107] 0o644),
      (["work", "out"], .dir 0o755)]⟩
    m.files.WellFormed ∧ m.files.Named ∧ Unobstructed m.files m.workDir "out" ∧
      ∃ n : Machine Unit, (clean "out").exec m = (.ok (), n) ∧ n.files = emptied := by
  intro m emptied
  have hwell : m.files.WellFormed := by decide
  have hnamed : m.files.Named := by decide
  have hfound : m.files.locate m.workDir "out" = .ok (["work", "out"], .dir 0o755) := by rfl
  have hempty : (m.files.removeBelow ["work", "out"]).locate m.workDir "out" =
      .ok (["work", "out"], .dir 0o755) := by rfl
  obtain ⟨-, -, -, hdir, -⟩ := clean_effect "out" m hwell hnamed
  obtain ⟨o, files, hclean, -, -, -, hall⟩ := hdir _ _ hfound
  obtain ⟨hended, hfiles⟩ := hall hempty
  have hok : o = .ok () := by
    rw [hended, if_pos (by decide)]
  subst hok
  exact ⟨hwell, hnamed, ⟨_, _, hfound, hempty⟩, _, hclean, (hfiles rfl).trans (by rfl)⟩

/-- **A missing directory with a double dot in its path name** is not empty when it is emptied and made: to make
it, the directory before the double dot is made in it. -/
theorem clean_prepare_not_empty :
    let m : Machine Unit := { Machine.bare () with
      files := ⟨[(["work"], .dir 0o755), (["work", "out"], .dir 0o755),
        (["work", "out", "keep"], .file [107] 0o644)]⟩ }
    let r := (do clean "out/new/.."; prepare "out/new/.." : Run Unit Unit).exec m
    m.files.WellFormed ∧ m.files.Named ∧ r.1 = .ok () ∧
      ¬ LeadsToEmptyDir r.2.files r.2.workDir "out/new/.." := by
  intro m r
  have hfound : r.2.files.locate r.2.workDir "out/new/.." = .ok (["work", "out"], .dir 0o755) := by rfl
  have hkept : r.2.files.get? ["work", "out", "keep"] = some (.file [107] 0o644) := by rfl
  refine ⟨by decide, by decide, by rfl, fun ⟨l, mode, hagain, hempty⟩ => ?_⟩
  rw [hfound] at hagain
  cases hagain
  have hnone := hempty ["work", "out", "keep"] (by decide)
  rw [hkept] at hnone
  cases hnone

end Checkout.Workspace
