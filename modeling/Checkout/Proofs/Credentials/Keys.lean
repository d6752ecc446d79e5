import Checkout.Proofs.Credentials.Isolation
import Checkout.Proofs.FileSystem.Tree
import Checkout.Proofs.Symlink.Exactness
import Mathlib.Data.List.TakeWhile

/-!
# Which keys are staged

Of what stands in the directory of the keys, staging copies the files and what leads to files through links,
each under its name. The names are gone through in the order of their bytes, so that neither the command nor
what is left behind depends on the order in which the directory is listed. Staging ends early only where a
path name is too long, that of a copy or that of the directory for the copies, or where the writing of a copy
breaks off. The directory has two path names if it stands in the directory of the keys, where it is come upon
again. In the command a name stands as it is shown, which is the name itself only if that is text.

Results:
* `exec_copyKeys`: the keys are copied one by one, up to the first that is not written;
* `Mounted.exec_stageSsh`: staging the keys of a directory;
* `staged_keys_exact`: which keys are staged, and which command uses them.
-/

namespace Checkout.Credentials

open FileSystem (Fits Ordinary)

variable {ρ : Type} {fs fs' : FileSystem} {here keys P Q : Location} {sshDir dir destination name : ByteString}
  {fault : ByteString → Option WriteFault} {mode : Nat} {m n : Machine ρ}

/-! ## Names -/

/-- The names in the directory of the keys that lead to files, in their order. -/
def keyNames (fs : FileSystem) (here : Location) (sshDir : ByteString) (keys : Location) : List ByteString :=
  ((fs.childNames keys).mergeSort fun a b => decide (a ≤ b)).filter fun name =>
    fs.isFile here (Pathname.join sshDir name)

/-- The content of the file that a name in the directory of the keys leads to. -/
def keyContent (fs : FileSystem) (here : Location) (sshDir : ByteString) (keys : Location)
    (name : ByteString) : Option (List UInt8) :=
  if name ∈ fs.childNames keys then
    match fs.locate here (Pathname.join sshDir name) with
    | .ok (_, .file content _) => some content
    | _ => none
  else none

theorem mem_keyNames : name ∈ keyNames fs here sshDir keys ↔
    name ∈ fs.childNames keys ∧ fs.isFile here (Pathname.join sshDir name) = true := by
  unfold keyNames
  rw [List.mem_filter, List.mem_mergeSort]

theorem exists_locate_of_mem_keyNames (h : name ∈ keyNames fs here sshDir keys) : ∃ l content mode,
    fs.locate here (Pathname.join sshDir name) = .ok (l, .file content mode) ∧
      keyContent fs here sshDir keys name = some content := by
  obtain ⟨hname, hfile⟩ := mem_keyNames.mp h
  unfold keyContent
  unfold FileSystem.isFile at hfile
  rw [if_pos hname]
  cases hfound : fs.locate here (Pathname.join sshDir name) with
  | error e => simp [hfound] at hfile
  | ok x =>
    obtain ⟨l, e⟩ := x
    rw [hfound] at hfile
    cases e with
    | file content mode => exact ⟨l, content, mode, rfl, rfl⟩
    | dir _ => cases hfile
    | link _ => cases hfile
    | device => cases hfile

theorem mem_keyNames_iff :
    name ∈ keyNames fs here sshDir keys ↔ (keyContent fs here sshDir keys name).isSome = true := by
  constructor
  · intro h
    obtain ⟨-, content, -, -, hcontent⟩ := exists_locate_of_mem_keyNames h
    rw [hcontent]
    rfl
  · intro h
    unfold keyContent at h
    by_cases hname : name ∈ fs.childNames keys
    · rw [if_pos hname] at h
      refine mem_keyNames.mpr ⟨hname, ?_⟩
      unfold FileSystem.isFile
      split at h
      · rename_i hfound
        rw [hfound]
        rfl
      · cases h
    · rw [if_neg hname] at h
      cases h

theorem pairwise_sorted (names : List ByteString) :
    (names.mergeSort fun a b => decide (a ≤ b)).Pairwise fun a b => decide (a ≤ b) = true := by
  refine List.pairwise_mergeSort (fun a b c hab hbc => ?_) (fun a b => ?_) names
  · exact decide_eq_true (ByteString.le_trans (of_decide_eq_true hab) (of_decide_eq_true hbc))
  · simpa using ByteString.le_total a b

theorem nodup_keyNames (hwell : fs.WellFormed) : (keyNames fs here sshDir keys).Nodup :=
  ((List.mergeSort_perm _ _).nodup_iff.mpr (hwell.nodup_childNames keys)).filter _

/-- **The names are in the order of their bytes**, and none is there twice. -/
theorem pairwise_keyNames (hwell : fs.WellFormed) :
    (keyNames fs here sshDir keys).Pairwise fun a b => a < b := by
  have hsorted := (pairwise_sorted (fs.childNames keys)).filter fun name =>
    fs.isFile here (Pathname.join sshDir name)
  refine (hsorted.and (nodup_keyNames hwell)).imp fun ⟨hle, hne⟩ => ?_
  exact ByteString.lt_of_le_of_ne (of_decide_eq_true hle) hne

/-- There is only one list of some names in the order of their bytes. -/
theorem eq_of_pairwise_lt {names names' : List ByteString} (h : names.Pairwise fun a b => a < b)
    (h' : names'.Pairwise fun a b => a < b) (hmem : ∀ name, name ∈ names ↔ name ∈ names') :
    names = names' := by
  have hnodup : ∀ {xs : List ByteString}, xs.Pairwise (fun a b => a < b) → xs.Nodup := by
    intro xs hxs
    refine hxs.imp fun {a b} hlt heq => ?_
    rw [heq] at hlt
    exact ByteString.lt_irrefl b hlt
  refine List.Perm.eq_of_pairwise (fun a b _ _ hab hba => absurd hab (ByteString.lt_asymm hba)) h h' ?_
  exact (List.perm_ext_iff_of_nodup (hnodup h) (hnodup h')).mpr hmem

/-! ## Copies -/

/-- The file system with private files under names in a directory. -/
def withFiles (fs : FileSystem) (Q : Location) (content : ByteString → List UInt8)
    (names : List ByteString) : FileSystem :=
  names.foldl (fun fs name => fs.put (Q ++ [name]) (.file (content name) privateFileMode)) fs

section Copies

variable {content : ByteString → List UInt8} {names : List ByteString}

theorem get?_withFiles_of_not_mem {l : Location} (h : ∀ name ∈ names, l ≠ Q ++ [name]) :
    (withFiles fs Q content names).get? l = fs.get? l := by
  induction names generalizing fs with
  | nil => rfl
  | cons name names ih =>
    refine (ih fun x hx => h x (List.mem_cons_of_mem _ hx)).trans ?_
    exact FileSystem.get?_put_of_ne (h name List.mem_cons_self)

theorem get?_withFiles_of_mem (h : name ∈ names) :
    (withFiles fs Q content names).get? (Q ++ [name]) = some (.file (content name) privateFileMode) := by
  induction names generalizing fs with
  | nil => cases h
  | cons first names ih =>
    by_cases hlater : name ∈ names
    · exact ih hlater
    · obtain rfl : name = first := (List.mem_cons.mp h).resolve_right hlater
      have hkept : (withFiles (fs.put (Q ++ [name]) (.file (content name) privateFileMode)) Q content names).get?
          (Q ++ [name]) = (fs.put (Q ++ [name]) (.file (content name) privateFileMode)).get? (Q ++ [name]) := by
        refine get?_withFiles_of_not_mem fun x hx heq => ?_
        obtain rfl : name = x := by simpa using heq
        exact hlater hx
      exact hkept.trans (FileSystem.get?_put_self (by simp))

/-- What was found is found as it was when files are put where nothing stood. -/
theorem locate_withFiles {path : ByteString} {l : Location} {e : Entry}
    (hfree : ∀ name ∈ names, fs.get? (Q ++ [name]) = none) (hfound : fs.locate here path = .ok (l, e)) :
    (withFiles fs Q content names).locate here path = .ok (l, e) := by
  have hsame : ∀ l e, fs.get? l = some e → (withFiles fs Q content names).get? l = some e := by
    intro l e he
    refine (get?_withFiles_of_not_mem fun name hname heq => ?_).trans he
    rw [heq, hfree name hname] at he
    cases he
  have hkeeps : FileSystem.Keeps fs (withFiles fs Q content names) := fun l e he => ⟨e, hsame l e he, rfl⟩
  have he := (FileSystem.locate_eq_ok_iff.mp hfound).2.1
  exact hkeeps.locate_eq hfound ((hsame l e he).trans he.symm)

theorem privateWrite_snd_eq_none_iff {fits : Bool} {io : Option WriteFault} {old : Option Entry}
    {bytes : List UInt8} : (privateWrite io fits old bytes).2 = none ↔ fits = true ∧ io = none := by
  cases io with
  | none => cases fits <;> simp [privateWrite]
  | some broken =>
    cases broken with
    | unopened e => simp [privateWrite]
    | after written e => cases fits <;> simp [privateWrite]

/-- What becomes of a private file under a name in a directory where nothing stands under it, and how its
writing fails. -/
def freshWrite (fault : ByteString → Option WriteFault) (destination name : ByteString)
    (bytes : List UInt8) : Option Entry × Option IoError :=
  privateWrite (fault (Pathname.join destination name)) (decide (Fits destination name)) none bytes

theorem freshWrite_of_takes (h : Takes fault destination name) (bytes : List UInt8) :
    freshWrite fault destination name bytes = (some (.file bytes privateFileMode), none) :=
  privateWrite_of_takes h none bytes

theorem takes_of_freshWrite {bytes : List UInt8} (h : (freshWrite fault destination name bytes).2 = none) :
    Takes fault destination name := by
  obtain ⟨hfits, hwhole⟩ := privateWrite_snd_eq_none_iff.mp h
  exact ⟨of_decide_eq_true hfits, hwhole⟩

/-- The file system after private files were written one by one under names in a directory where nothing
stands, up to the first that is not written, and how the writing of that one fails. -/
def copies (fault : ByteString → Option WriteFault) (destination : ByteString) (Q : Location)
    (content : ByteString → List UInt8) : List ByteString → FileSystem → FileSystem × Option IoError
  | [], fs => (fs, none)
  | name :: names, fs =>
    let w := freshWrite fault destination name (content name)
    let fs' := w.1.elim fs (fs.put (Q ++ [name]))
    match w.2 with
    | none => copies fault destination Q content names fs'
    | some e => (fs', some e)

/-- If every file can be written, all of them are. -/
theorem copies_of_takes (h : ∀ name ∈ names, Takes fault destination name) (fs : FileSystem) :
    copies fault destination Q content names fs = (withFiles fs Q content names, none) := by
  induction names generalizing fs with
  | nil => rfl
  | cons name names ih =>
    have hfirst := freshWrite_of_takes (h name List.mem_cons_self) (content name)
    simp only [copies, hfirst]
    exact ih (fun x hx => h x (List.mem_cons_of_mem _ hx)) _

/-- If one file cannot be written, the writing of one fails. -/
theorem copies_of_not_takes (h : ¬ ∀ name ∈ names, Takes fault destination name) (fs : FileSystem) :
    ∃ e, (copies fault destination Q content names fs).2 = some e ∧
      ((∀ name ∈ names, fault (Pathname.join destination name) = none) → e = .os .nameTooLong) := by
  induction names generalizing fs with
  | nil => exact absurd (fun name hname => by cases hname) h
  | cons name names ih =>
    rw [List.forall_mem_cons] at h
    simp only [copies]
    cases hfirst : (freshWrite fault destination name (content name)).2 with
    | none =>
      have hrest : ¬ ∀ x ∈ names, Takes fault destination x := fun hrest =>
        h ⟨takes_of_freshWrite hfirst, hrest⟩
      obtain ⟨e, he, hlong⟩ := ih hrest _
      exact ⟨e, he, fun hnone => hlong fun x hx => hnone x (List.mem_cons_of_mem _ hx)⟩
    | some e =>
      refine ⟨e, rfl, fun hnone => ?_⟩
      unfold freshWrite at hfirst
      rw [hnone name List.mem_cons_self] at hfirst
      cases hfits : decide (Fits destination name) with
      | true => simp [privateWrite, hfits] at hfirst
      | false => simpa [privateWrite, hfits, eq_comm] using hfirst

/-- What is written is the same wherever the same stood before. -/
theorem copies_congr (h : ∀ l, fs'.get? l = fs.get? l) :
    (∀ l, (copies fault destination Q content names fs').1.get? l =
      (copies fault destination Q content names fs).1.get? l) ∧
      (copies fault destination Q content names fs').2 = (copies fault destination Q content names fs).2 := by
  induction names generalizing fs fs' with
  | nil => exact ⟨h, rfl⟩
  | cons name names ih =>
    simp only [copies]
    generalize freshWrite fault destination name (content name) = w
    have hplaced : ∀ l, (w.1.elim fs' (fs'.put (Q ++ [name]))).get? l =
        (w.1.elim fs (fs.put (Q ++ [name]))).get? l := by
      intro l
      cases w.1 with
      | none => exact h l
      | some e =>
        by_cases hl : l = Q ++ [name]
        · simp only [Option.elim_some, hl, FileSystem.get?_put_self (show Q ++ [name] ≠ [] by simp)]
        · simp only [Option.elim_some, FileSystem.get?_put_of_ne hl, h]
    cases w.2 with
    | none => exact ih hplaced
    | some e => exact ⟨hplaced, rfl⟩

theorem exec_copyKey {l : Location} {bytes : List UInt8} {bits : Nat}
    (hread : n.files.locate n.workDir (Pathname.join sshDir name) = .ok (l, .file bytes bits))
    (hdest : n.files.locate n.workDir destination = .ok (Q, .dir mode)) (hname : Ordinary name)
    (hfree : n.files.get? (Q ++ [name]) = none) :
    (copyKey sshDir destination name).exec n =
      let w := freshWrite n.writeFault destination name bytes
      (w.2.elim (.ok ()) fun e => .error (.io e),
        { n with files := w.1.elim n.files (n.files.put (Q ++ [name])) }) := by
  have hquery : (Run.query fun fs here => fs.readBytes here (Pathname.join sshDir name)).exec n =
      (.ok bytes, n) := by
    rw [Run.exec_query, FileSystem.readBytes, hread]
  have hwrite := exec_writePrivate hdest hname (by rw [hfree]; rfl) bytes
  rw [hfree] at hwrite
  unfold copyKey freshWrite
  rw [Run.exec_bind_ok hquery, hwrite]

/-- **Keys are copied one by one** to where nothing stands yet, up to the first that is not written. -/
theorem exec_copyKeys (hnodup : names.Nodup)
    (hdest : n.files.locate n.workDir destination = .ok (Q, .dir mode))
    (hnames : ∀ name ∈ names, Ordinary name) (hfree : ∀ name ∈ names, n.files.get? (Q ++ [name]) = none)
    (hread : ∀ name ∈ names, ∃ l bits,
      n.files.locate n.workDir (Pathname.join sshDir name) = .ok (l, .file (content name) bits)) :
    (names.forM (copyKey sshDir destination)).exec n =
      let done := copies n.writeFault destination Q content names n.files
      (done.2.elim (.ok ()) fun e => .error (.io e), { n with files := done.1 }) := by
  induction names generalizing n with
  | nil => rfl
  | cons name names ih =>
    obtain ⟨hfresh, hnodup⟩ := List.nodup_cons.mp hnodup
    obtain ⟨l, bits, hlocated⟩ := hread name List.mem_cons_self
    have hplace := hfree name List.mem_cons_self
    have hcopy := exec_copyKey hlocated hdest (hnames name List.mem_cons_self) hplace
    change (copyKey sshDir destination name >>= fun _ => names.forM (copyKey sshDir destination)).exec n = _
    dsimp only at hcopy
    simp only [copies]
    cases hfirst : (freshWrite n.writeFault destination name (content name)).2 with
    | some e =>
      rw [hfirst] at hcopy
      exact Run.exec_bind_error hcopy
    | none =>
      rw [freshWrite_of_takes (takes_of_freshWrite hfirst)] at hcopy ⊢
      rw [Run.exec_bind_ok hcopy, ih hnodup (FileSystem.locate_put_of_free hplace hdest)
        (fun x hx => hnames x (List.mem_cons_of_mem _ hx)) (fun x hx => ?_) fun x hx => ?_]
      · have hne : Q ++ [x] ≠ Q ++ [name] := by
          intro heq
          obtain rfl : x = name := by simpa using heq
          exact hfresh hx
        exact (FileSystem.get?_put_of_ne hne).trans (hfree x (List.mem_cons_of_mem _ hx))
      · obtain ⟨l', bits', hlocated'⟩ := hread x (List.mem_cons_of_mem _ hx)
        exact ⟨l', bits', FileSystem.locate_put_of_free hplace hlocated'⟩

end Copies

/-! ## Listing -/

/-- **The directory of the keys is listed**, if every name in it leads somewhere. -/
theorem exec_fileNames (hdir : n.files.locate n.workDir sshDir = .ok (keys, .dir mode))
    (hleads : ∀ name ∈ n.files.childNames keys, n.files.pathExists n.workDir (Pathname.join sshDir name) = true) :
    (fileNames sshDir).exec n = (.ok (keyNames n.files n.workDir sshDir keys), n) := by
  have hlist : (Run.query fun fs here => fs.listDir here sshDir).exec n = (.ok (n.files.childNames keys), n) := by
    rw [Run.exec_query, FileSystem.listDir, hdir]
  unfold fileNames keyNames
  rw [Run.exec_bind_ok hlist, ← List.filterMap_eq_filter]
  refine Run.exec_filterMapM_of_quiet fun name hname => ?_
  obtain ⟨l, e, hfound⟩ := FileSystem.pathExists_iff.mp (hleads name (List.mem_mergeSort.mp hname))
  have hquery : (Run.query fun fs here => fs.locate here (Pathname.join sshDir name)).exec n =
      (.ok (l, e), n) := by
    rw [Run.exec_query, hfound]
  rw [Run.exec_bind_ok hquery]
  simp only [Option.guard, FileSystem.isFile, hfound]
  rfl

/-- A directory whose only name cannot be asked for is not listed. -/
theorem exec_fileNames_of_long (hdir : n.files.locate n.workDir sshDir = .ok (keys, .dir mode))
    (hnames : n.files.childNames keys = [name]) (hname : Ordinary name)
    (hlink : (n.files.get? (keys ++ [name])).any Entry.isLink = false) (hlong : ¬ Fits sshDir name) :
    (fileNames sshDir).exec n = (.error (.io (.os .nameTooLong)), n) := by
  have hlist : (Run.query fun fs here => fs.listDir here sshDir).exec n = (.ok [name], n) := by
    rw [Run.exec_query, FileSystem.listDir, hdir]
    simp only [hnames]
  have hfails : (Run.query fun fs here => fs.locate here (Pathname.join sshDir name)).exec n =
      (.error (.io (.os .nameTooLong)), n) := by
    rw [Run.exec_query, FileSystem.locate, FileSystem.resolve_join hdir hname fun _ => hlink, if_neg hlong]
  unfold fileNames
  rw [Run.exec_bind_ok hlist, List.mergeSort_singleton, List.filterMapM_cons]
  exact Run.exec_bind_error (Run.exec_bind_error hfails)

/-! ## Staging -/

/-- A directory of keys, in which every name leads somewhere, and an empty directory. -/
structure Mounted (fs : FileSystem) (here : Location) (sshDir : ByteString) (keys : Location)
    (dir : ByteString) (P : Location) : Prop where
  wellFormed : fs.WellFormed
  named : fs.Named
  source : ∃ mode, fs.locate here sshDir = .ok (keys, .dir mode)
  leads : ∀ name ∈ fs.childNames keys, fs.pathExists here (Pathname.join sshDir name) = true
  target : ∃ mode, fs.locate here dir = .ok (P, .dir mode)
  empty : fs.below P = []

/-- No path name that staging keys asks for is too long, and every copy can be written. In a private directory
that is the directory of the keys as well, the directory for the copies is asked for twice. -/
structure Stageable (fault : ByteString → Option WriteFault) (sshDir dir : ByteString) (keys P : Location)
    (names : List ByteString) : Prop where
  directory : Fits dir ".ssh"
  again : keys = P → Fits sshDir ".ssh"
  takes : ∀ name ∈ names, Takes fault (Pathname.join dir ".ssh") name

/-- The file system with an empty directory for keys. -/
def withKeyDir (fs : FileSystem) (P : Location) : FileSystem :=
  fs.put (P ++ [(".ssh" : ByteString)]) (.dir 0o700)

/-- The file system when the keys are staged, with a copy of each up to the first that is not written, and how
the writing of that one fails. -/
def stagedKeys (fault : ByteString → Option WriteFault) (fs : FileSystem) (here : Location)
    (sshDir : ByteString) (keys : Location) (dir : ByteString) (P : Location) :
    FileSystem × Option IoError :=
  if Fits dir ".ssh" then
    copies fault (Pathname.join dir ".ssh") (P ++ [(".ssh" : ByteString)])
      (fun name => (keyContent fs here sshDir keys name).getD []) (keyNames fs here sshDir keys)
      (withKeyDir fs P)
  else (fs, none)

/-- How staging the keys ends: with the command that uses them, or with the failure of a copy, or because a
path name is too long. -/
def stagedOutcome (fault : ByteString → Option WriteFault) (fs : FileSystem) (here : Location)
    (sshDir : ByteString) (keys : Location) (dir : ByteString) (P : Location) :
    Except Error (Option String) :=
  if Fits dir ".ssh" ∧ (keys = P → Fits sshDir ".ssh") then
    (stagedKeys fault fs here sshDir keys dir P).2.elim
      (.ok (some (sshCommand (Pathname.join dir ".ssh") (keyNames fs here sshDir keys)
        (decide (("known_hosts" : ByteString) ∈ keyNames fs here sshDir keys)))))
      fun e => .error (.io e)
  else .error (.io (.os .nameTooLong))

/-- If all copies were written, they can be. -/
theorem stageable_of_written (hfits : Fits dir ".ssh") (hagain : keys = P → Fits sshDir ".ssh")
    (h : (stagedKeys fault fs here sshDir keys dir P).2 = none) :
    Stageable fault sshDir dir keys P (keyNames fs here sshDir keys) := by
  refine ⟨hfits, hagain, Classical.byContradiction fun hnot => ?_⟩
  unfold stagedKeys at h
  obtain ⟨e, he, -⟩ := copies_of_not_takes hnot (withKeyDir fs P)
  rw [if_pos hfits, he] at h
  cases h

/-- Staging that cannot be done fails, because of a path name if it is not because of a copy. -/
theorem stagedOutcome_of_not_stageable
    (h : ¬ Stageable fault sshDir dir keys P (keyNames fs here sshDir keys)) :
    ∃ e, stagedOutcome fault fs here sshDir keys dir P = .error (.io e) ∧
      ((∀ name ∈ keyNames fs here sshDir keys, fault (Pathname.join (Pathname.join dir ".ssh") name) = none) →
        e = .os .nameTooLong) := by
  unfold stagedOutcome
  by_cases hboth : Fits dir ".ssh" ∧ (keys = P → Fits sshDir ".ssh")
  · have hnot : ¬ ∀ name ∈ keyNames fs here sshDir keys, Takes fault (Pathname.join dir ".ssh") name :=
      fun htakes => h ⟨hboth.1, hboth.2, htakes⟩
    obtain ⟨e, he, hlong⟩ := copies_of_not_takes hnot (withKeyDir fs P)
    rw [if_pos hboth, stagedKeys, if_pos hboth.1, he]
    exact ⟨e, rfl, hlong⟩
  · rw [if_neg hboth]
    exact ⟨_, rfl, fun _ => rfl⟩

/-- What is staged of keys: a directory that only its owner may use, and in it a copy of each that only its
owner may read. Nothing else is new. -/
structure KeysStaged (fs : FileSystem) (P : Location) (content : ByteString → Option (List UInt8))
    (fs' : FileSystem) : Prop where
  directory : fs'.get? (P ++ [(".ssh" : ByteString)]) = some (.dir 0o700)
  copy : ∀ name, fs'.get? (P ++ [(".ssh" : ByteString), name]) =
    (content name).map fun bytes => .file bytes 0o400
  others : ∀ l, l ≠ P ++ [(".ssh" : ByteString)] → (∀ name, l ≠ P ++ [(".ssh" : ByteString), name]) →
    fs'.get? l = fs.get? l

namespace Mounted

theorem get?_eq_none (h : Mounted fs here sshDir keys dir P) (names : List ByteString) (hne : names ≠ []) :
    fs.get? (P ++ names) = none :=
  FileSystem.get?_eq_none_of_below h.empty
    (FileSystem.isBelow_iff.mpr ⟨List.prefix_append _ _, by simpa using hne⟩)

theorem childNames_eq_nil (h : Mounted fs here sshDir keys dir P) : fs.childNames P = [] := by
  refine List.eq_nil_iff_forall_not_mem.mpr fun name hname => ?_
  exact FileSystem.mem_childNames_iff.mp hname (h.get?_eq_none [name] (by simp))

/-- Nothing is copied in a private directory that is the directory of the keys as well. -/
theorem keyNames_eq_nil (h : Mounted fs here sshDir keys dir P) (hsame : keys = P) :
    keyNames fs here sshDir keys = [] := by
  refine List.eq_nil_iff_forall_not_mem.mpr fun name hname => ?_
  have hlisted := (mem_keyNames.mp hname).1
  rw [hsame, h.childNames_eq_nil] at hlisted
  cases hlisted

theorem childNames_withKeyDir (h : Mounted fs here sshDir keys dir P) :
    (withKeyDir fs P).childNames keys = if keys = P then [(".ssh" : ByteString)] else fs.childNames keys := by
  unfold withKeyDir
  rw [FileSystem.childNames_put_of_free (h.get?_eq_none [".ssh"] (by simp))]
  by_cases hsame : keys = P
  · rw [if_pos hsame, if_pos hsame, hsame, h.childNames_eq_nil]
  · rw [if_neg hsame, if_neg hsame]

/-- Nothing stands in the directory for keys when it has been made. -/
theorem get?_withKeyDir_eq_none (h : Mounted fs here sshDir keys dir P) (name : ByteString) :
    (withKeyDir fs P).get? (P ++ [(".ssh" : ByteString)] ++ [name]) = none := by
  rw [withKeyDir, FileSystem.get?_put_of_ne (by simp), List.append_assoc]
  exact h.get?_eq_none _ (by simp)

/-- What was found is found as it was when there is a directory for keys. -/
theorem locate_withKeyDir (h : Mounted fs here sshDir keys dir P) {path : ByteString} {l : Location}
    {e : Entry} (hfound : fs.locate here path = .ok (l, e)) :
    (withKeyDir fs P).locate here path = .ok (l, e) :=
  FileSystem.locate_put_of_free (h.get?_eq_none [".ssh"] (by simp)) hfound

/-- The directory for keys is no link, and no file. -/
theorem locate_keyDir (h : Mounted fs here sshDir keys dir P) {path : ByteString} {l : Location} {e : Entry}
    (hpath : fs.locate here path = .ok (P, .dir mode)) :
    (withKeyDir fs P).locate here (Pathname.join path ".ssh") = .ok (l, e) ↔
      Fits path ".ssh" ∧ l = P ++ [(".ssh" : ByteString)] ∧ e = .dir 0o700 := by
  have hself : (withKeyDir fs P).get? (P ++ [(".ssh" : ByteString)]) = some (.dir 0o700) :=
    FileSystem.get?_put_self (by simp)
  rw [FileSystem.locate_join_iff (h.locate_withKeyDir hpath) (by decide) (by rw [hself]; rfl), hself,
    Option.some.injEq, eq_comm (a := Entry.dir 0o700)]

/-- **The directory for keys is no key**, wherever it is made. -/
theorem keyNames_withKeyDir (h : Mounted fs here sshDir keys dir P) :
    keyNames (withKeyDir fs P) here sshDir keys = keyNames fs here sshDir keys := by
  obtain ⟨mode, hsource⟩ := h.source
  by_cases hsame : keys = P
  · subst hsame
    have hnot : ∀ name, name ∉ keyNames (withKeyDir fs keys) here sshDir keys := by
      intro name hname
      have hlisted := (mem_keyNames.mp hname).1
      rw [h.childNames_withKeyDir, if_pos rfl, List.mem_singleton] at hlisted
      subst hlisted
      obtain ⟨l, content, bits, hfound, -⟩ := exists_locate_of_mem_keyNames hname
      cases ((h.locate_keyDir hsource).mp hfound).2.2
    rw [List.eq_nil_iff_forall_not_mem.mpr hnot, h.keyNames_eq_nil rfl]
  · have hnames := h.childNames_withKeyDir
    rw [if_neg hsame] at hnames
    unfold keyNames
    rw [hnames]
    refine List.filter_congr fun name hname => ?_
    obtain ⟨l, e, hfound⟩ := FileSystem.pathExists_iff.mp (h.leads name (List.mem_mergeSort.mp hname))
    rw [FileSystem.isFile, FileSystem.isFile, hfound, h.locate_withKeyDir hfound]

/-- Every name still leads somewhere, if that of the directory for keys can be asked for. -/
theorem leads_withKeyDir (h : Mounted fs here sshDir keys dir P) (hfits : keys = P → Fits sshDir ".ssh") :
    ∀ name ∈ (withKeyDir fs P).childNames keys,
      (withKeyDir fs P).pathExists here (Pathname.join sshDir name) = true := by
  obtain ⟨mode, hsource⟩ := h.source
  intro name hname
  rw [h.childNames_withKeyDir] at hname
  by_cases hsame : keys = P
  · rw [if_pos hsame, List.mem_singleton] at hname
    subst hsame hname
    exact FileSystem.pathExists_iff.mpr ⟨_, _, (h.locate_keyDir hsource).mpr ⟨hfits rfl, rfl, rfl⟩⟩
  · rw [if_neg hsame] at hname
    obtain ⟨l, e, hfound⟩ := FileSystem.pathExists_iff.mp (h.leads name hname)
    exact FileSystem.pathExists_iff.mpr ⟨l, e, h.locate_withKeyDir hfound⟩

/-- The directory of the keys is listed when there is one for the copies. -/
theorem exec_fileNames (h : Mounted m.files m.workDir sshDir keys dir P)
    (hfiles : n.files = withKeyDir m.files P) (hhere : n.workDir = m.workDir) :
    (fileNames sshDir).exec n =
      (if keys = P → Fits sshDir ".ssh" then .ok (keyNames m.files m.workDir sshDir keys)
        else .error (.io (.os .nameTooLong)), n) := by
  obtain ⟨mode, hsource⟩ := h.source
  have hlisted := h.locate_withKeyDir hsource
  rw [← hfiles, ← hhere] at hlisted
  by_cases hfits : keys = P → Fits sshDir ".ssh"
  · have hleads := h.leads_withKeyDir hfits
    rw [← hfiles, ← hhere] at hleads
    rw [if_pos hfits, Credentials.exec_fileNames hlisted hleads, hfiles, hhere, h.keyNames_withKeyDir]
  · obtain ⟨hsame, hlong⟩ := Classical.not_imp.mp hfits
    have honly := h.childNames_withKeyDir
    rw [if_pos hsame, ← hfiles] at honly
    have hlink : (n.files.get? (keys ++ [(".ssh" : ByteString)])).any Entry.isLink = false := by
      rw [hfiles, hsame, withKeyDir, FileSystem.get?_put_self (by simp)]
      rfl
    rw [if_neg hfits, exec_fileNames_of_long hlisted honly (by decide) hlink hlong]

/-- The keys are copied into the directory for them. -/
theorem exec_copyKeys (h : Mounted m.files m.workDir sshDir keys dir P) (hfits : Fits dir ".ssh")
    (hfiles : n.files = withKeyDir m.files P) (hhere : n.workDir = m.workDir)
    (hfault : n.writeFault = m.writeFault) :
    ((keyNames m.files m.workDir sshDir keys).forM (copyKey sshDir (Pathname.join dir ".ssh"))).exec n =
      let done := stagedKeys m.writeFault m.files m.workDir sshDir keys dir P
      (done.2.elim (.ok ()) fun e => .error (.io e), { n with files := done.1 }) := by
  obtain ⟨mode, hdir⟩ := h.target
  have hdest := (h.locate_keyDir hdir).mpr ⟨hfits, rfl, rfl⟩
  unfold stagedKeys
  rw [if_pos hfits, ← hfiles, ← hfault]
  refine Credentials.exec_copyKeys (nodup_keyNames h.wellFormed) (by rw [hfiles, hhere]; exact hdest)
    (fun name hname => h.named.childNames (mem_keyNames.mp hname).1) (fun name _ => ?_) fun name hname => ?_
  · rw [hfiles]
    exact h.get?_withKeyDir_eq_none name
  · obtain ⟨l, content, bits, hfound, hcontent⟩ := exists_locate_of_mem_keyNames hname
    rw [hfiles, hhere, hcontent]
    exact ⟨l, bits, h.locate_withKeyDir hfound⟩

section Stageable

variable (hstageable : Stageable fault sshDir dir keys P (keyNames fs here sshDir keys))

include hstageable

/-- Every key is copied, if it can be. -/
theorem stagedKeys_of_stageable :
    stagedKeys fault fs here sshDir keys dir P = (withFiles (withKeyDir fs P) (P ++ [(".ssh" : ByteString)])
      (fun name => (keyContent fs here sshDir keys name).getD []) (keyNames fs here sshDir keys), none) := by
  unfold stagedKeys
  rw [if_pos hstageable.directory, copies_of_takes hstageable.takes]

/-- **What stands where after the keys were staged.** -/
theorem keysStaged (h : Mounted fs here sshDir keys dir P) :
    KeysStaged fs P (keyContent fs here sshDir keys) (stagedKeys fault fs here sshDir keys dir P).1 := by
  rw [stagedKeys_of_stageable hstageable]
  constructor
  · rw [get?_withFiles_of_not_mem (by simp)]
    exact FileSystem.get?_put_self (by simp)
  · intro name
    have hplace : P ++ [(".ssh" : ByteString), name] = P ++ [(".ssh" : ByteString)] ++ [name] := by simp
    rw [hplace]
    by_cases hname : name ∈ keyNames fs here sshDir keys
    · obtain ⟨-, content, -, -, hcontent⟩ := exists_locate_of_mem_keyNames hname
      rw [get?_withFiles_of_mem hname, hcontent]
      rfl
    · have hcontent := Option.not_isSome_iff_eq_none.mp (mt mem_keyNames_iff.mpr hname)
      rw [hcontent, get?_withFiles_of_not_mem fun x hx heq => ?_, h.get?_withKeyDir_eq_none]
      · rfl
      · obtain rfl : name = x := by simpa using heq
        exact hname hx
  · intro l hdir hcopy
    rw [get?_withFiles_of_not_mem fun name _ heq => hcopy name (by rw [heq, List.append_assoc]; rfl)]
    exact FileSystem.get?_put_of_ne hdir

/-- There are known hosts among the copies just if they were copied. -/
theorem isFile_knownHosts (h : Mounted fs here sshDir keys dir P) :
    (stagedKeys fault fs here sshDir keys dir P).1.isFile here
        (Pathname.join (Pathname.join dir ".ssh") "known_hosts") =
      decide (("known_hosts" : ByteString) ∈ keyNames fs here sshDir keys) := by
  obtain ⟨mode, hdir⟩ := h.target
  have hcopy := (keysStaged hstageable h).copy "known_hosts"
  have hdest : (stagedKeys fault fs here sshDir keys dir P).1.locate here (Pathname.join dir ".ssh") =
      .ok (P ++ [(".ssh" : ByteString)], .dir 0o700) := by
    rw [stagedKeys_of_stageable hstageable]
    exact locate_withFiles (fun name _ => h.get?_withKeyDir_eq_none name)
      ((h.locate_keyDir hdir).mpr ⟨hstageable.directory, rfl, rfl⟩)
  generalize (stagedKeys fault fs here sshDir keys dir P).1 = done at hcopy hdest
  have hplace : P ++ [(".ssh" : ByteString), "known_hosts"] =
      P ++ [(".ssh" : ByteString)] ++ [("known_hosts" : ByteString)] := by simp
  rw [hplace] at hcopy
  have hlink : (done.get? (P ++ [(".ssh" : ByteString)] ++ [("known_hosts" : ByteString)])).any Entry.isLink =
      false := by
    rw [hcopy]
    cases keyContent fs here sshDir keys "known_hosts" <;> rfl
  have hcopied : decide (("known_hosts" : ByteString) ∈ keyNames fs here sshDir keys) =
      (keyContent fs here sshDir keys "known_hosts").isSome := by
    rw [Bool.eq_iff_iff, decide_eq_true_iff]
    exact mem_keyNames_iff
  rw [hcopied]
  unfold FileSystem.isFile
  cases hcontent : keyContent fs here sshDir keys "known_hosts" with
  | some content =>
    rw [hcontent] at hcopy
    have hknown := (hstageable.takes _ (mem_keyNames_iff.mpr (by rw [hcontent]; rfl))).1
    rw [(FileSystem.locate_join_iff hdest (by decide) hlink).mpr ⟨hknown, rfl, hcopy⟩]
    rfl
  | none =>
    rw [hcontent] at hcopy
    cases hat : done.locate here (Pathname.join (Pathname.join dir ".ssh") "known_hosts") with
    | error e => rfl
    | ok x =>
      have he := ((FileSystem.locate_join_iff hdest (by decide) hlink).mp hat).2.2
      rw [hcopy] at he
      cases he

end Stageable

/-- **Staging keys**: how it ends, and which files there are then. -/
theorem exec_stageSsh (h : Mounted m.files m.workDir sshDir keys dir P) :
    ∃ log, (stageSsh sshDir dir).exec m =
      (stagedOutcome m.writeFault m.files m.workDir sshDir keys dir P,
        { m with files := (stagedKeys m.writeFault m.files m.workDir sshDir keys dir P).1, log := log }) := by
  obtain ⟨mode, hsource⟩ := h.source
  obtain ⟨bits, hdir⟩ := h.target
  have hexists : m.files.pathExists m.workDir sshDir = true := FileSystem.pathExists_iff.mpr ⟨_, _, hsource⟩
  -- Nothing but the log has changed when the directory for keys is made.
  generalize hn : m.noting [⟨.info, .credentials, s!"Setting up SSH keys from {sshDir}"⟩] = n
  have hfiles : n.files = m.files := by rw [← hn]; rfl
  have hhere : n.workDir = m.workDir := by rw [← hn]; rfl
  have hmake := exec_makeKeyDir (m := n) (hhere ▸ hfiles ▸ hdir)
    (by rw [hfiles, h.get?_eq_none [".ssh"] (by simp)]; rfl)
  unfold makeKeyDir at hmake
  unfold stageSsh
  rw [Run.exec_bind_ok (Run.exec_ask _ _), hexists, if_neg (by decide)]
  dsimp only
  rw [Run.exec_bind_ok (Run.exec_write _ _ _ _), hn, ← bind_assoc]
  by_cases hfits : Fits dir ".ssh"
  · rw [if_pos hfits, hfiles] at hmake
    generalize hmade :
      ({ n with files := m.files.put (P ++ [(".ssh" : ByteString)]) (.dir 0o700) } : Machine ρ) = made at hmake
    have hdone : made.files = withKeyDir m.files P := by
      rw [← hmade]
      rfl
    have hthere : made.workDir = m.workDir := by rw [← hmade, ← hhere]
    have hfault : made.writeFault = m.writeFault := by rw [← hmade, ← hn]; rfl
    have hnames := h.exec_fileNames hdone hthere
    have hcopies := h.exec_copyKeys hfits hdone hthere hfault
    rw [Run.exec_bind_ok hmake]
    by_cases halias : keys = P → Fits sshDir ".ssh"
    · rw [if_pos halias] at hnames
      rw [Run.exec_bind_ok hnames, stagedOutcome, if_pos ⟨hfits, halias⟩]
      dsimp only at hcopies
      cases hwritten : (stagedKeys m.writeFault m.files m.workDir sshDir keys dir P).2 with
      | none =>
        have hstageable := stageable_of_written hfits halias hwritten
        rw [hwritten] at hcopies
        rw [Run.exec_bind_ok hcopies, Run.exec_bind_ok (Run.exec_ask _ _)]
        dsimp only
        rw [hthere, isFile_knownHosts hstageable h, Run.exec_bind_ok (Run.exec_write _ _ _ _), ← hmade, ← hn]
        exact ⟨_, rfl⟩
      | some e =>
        rw [hwritten] at hcopies
        rw [Run.exec_bind_error hcopies, ← hmade, ← hn]
        exact ⟨_, rfl⟩
    · rw [if_neg halias] at hnames
      rw [Run.exec_bind_error hnames, stagedOutcome, if_neg fun hboth => halias hboth.2, stagedKeys,
        if_pos hfits, h.keyNames_eq_nil (Classical.not_imp.mp halias).1, ← hmade, ← hn]
      exact ⟨_, rfl⟩
  · rw [if_neg hfits] at hmake
    rw [Run.exec_bind_error hmake, stagedOutcome, if_neg fun hboth => hfits hboth.1, stagedKeys,
      if_neg hfits, ← hn]
    exact ⟨_, rfl⟩

end Mounted

/-! ## Other orders -/

section Orders

variable (h : Mounted fs here sshDir keys dir P) (hsame : ∀ l, fs'.get? l = fs.get? l)

include h hsame

/-- What is said of a file system holds of one with the same entries, in whatever order. -/
theorem Mounted.of_get?_eq (hwell : fs'.WellFormed) : Mounted fs' here sshDir keys dir P := by
  obtain ⟨mode, hsource⟩ := h.source
  obtain ⟨bits, htarget⟩ := h.target
  refine ⟨hwell, fun x hx => ?_, ⟨mode, FileSystem.locate_eq_of_get?_eq hsame hsource⟩, fun name hname => ?_,
    ⟨bits, FileSystem.locate_eq_of_get?_eq hsame htarget⟩, ?_⟩
  · have he := hwell.get?_of_mem hx
    rw [hsame] at he
    exact h.named.location he
  · obtain ⟨l, e, hfound⟩ := FileSystem.pathExists_iff.mp
      (h.leads name ((FileSystem.mem_childNames_congr hsame).mp hname))
    exact FileSystem.pathExists_iff.mpr ⟨l, e, FileSystem.locate_eq_of_get?_eq hsame hfound⟩
  · refine List.eq_nil_iff_forall_not_mem.mpr fun ⟨l, e⟩ hx => ?_
    obtain ⟨he, hbelow⟩ := hwell.mem_below_iff.mp hx
    rw [hsame, FileSystem.get?_eq_none_of_below h.empty hbelow] at he
    cases he

theorem keyContent_eq_of_get?_eq : keyContent fs' here sshDir keys = keyContent fs here sshDir keys := by
  funext name
  have hnames : name ∈ fs'.childNames keys ↔ name ∈ fs.childNames keys := FileSystem.mem_childNames_congr hsame
  unfold keyContent
  by_cases hname : name ∈ fs.childNames keys
  · obtain ⟨l, e, hfound⟩ := FileSystem.pathExists_iff.mp (h.leads name hname)
    rw [if_pos hname, if_pos (hnames.mpr hname), hfound, FileSystem.locate_eq_of_get?_eq hsame hfound]
  · rw [if_neg hname, if_neg (mt hnames.mp hname)]

/-- **The names of the keys are the same**, in whatever order the directory is listed. -/
theorem keyNames_eq_of_get?_eq (hwell : fs'.WellFormed) :
    keyNames fs' here sshDir keys = keyNames fs here sshDir keys := by
  refine eq_of_pairwise_lt (pairwise_keyNames hwell) (pairwise_keyNames h.wellFormed) fun name => ?_
  rw [mem_keyNames_iff, mem_keyNames_iff, keyContent_eq_of_get?_eq h hsame]

/-- **What is staged is the same**, in whatever order the directory is listed. -/
theorem stagedKeys_of_get?_eq (hwell : fs'.WellFormed) :
    (∀ l, (stagedKeys fault fs' here sshDir keys dir P).1.get? l =
      (stagedKeys fault fs here sshDir keys dir P).1.get? l) ∧
      stagedOutcome fault fs' here sshDir keys dir P = stagedOutcome fault fs here sshDir keys dir P := by
  have hmade : ∀ l, (withKeyDir fs' P).get? l = (withKeyDir fs P).get? l := by
    intro l
    unfold withKeyDir
    by_cases hl : l = P ++ [(".ssh" : ByteString)]
    · rw [hl, FileSystem.get?_put_self (by simp), FileSystem.get?_put_self (by simp)]
    · rw [FileSystem.get?_put_of_ne hl, FileSystem.get?_put_of_ne hl, hsame]
  have hnames := keyNames_eq_of_get?_eq h hsame hwell
  unfold stagedOutcome stagedKeys
  rw [hnames, keyContent_eq_of_get?_eq h hsame]
  by_cases hfits : Fits dir ".ssh"
  · rw [if_pos hfits, if_pos hfits]
    obtain ⟨hfiles, hfailure⟩ := copies_congr hmade
    exact ⟨hfiles, by rw [hfailure]⟩
  · rw [if_neg hfits, if_neg hfits]
    exact ⟨hsame, rfl⟩

end Orders

/-- **Which keys are staged.** Let every name in a directory lead somewhere, and a private directory be empty.
The names of the keys are those in the directory that lead to files, each once and in the order of their
bytes. If no path name is too long and no writing breaks off, staging leaves a private copy of each of these
files under its name, and nothing else is new but the directory for them; and it gives the command that uses
the private keys among them one by one and the known hosts, if these were copied, each by its path name as
this is shown. Otherwise it fails. Whatever happens does not depend on the order in which the directory is
listed. -/
theorem staged_keys_exact (m : Machine ρ) (h : Mounted m.files m.workDir sshDir keys dir P) :
    ∃ names : List ByteString, names.Pairwise (fun a b => a < b) ∧
      (∀ name, name ∈ names ↔ (keyContent m.files m.workDir sshDir keys name).isSome = true) ∧
      (Stageable m.writeFault sshDir dir keys P names →
        ((stageSsh sshDir dir).exec m).1 = .ok (some ("ssh" ++
          String.join ((names.filter fun name => name.shown.startsWith "id_" && !name.shown.endsWith ".pub").map
            fun name => " -i " ++ (Pathname.join (Pathname.join dir ".ssh") name).shown) ++
          if ("known_hosts" : ByteString) ∈ names then
            " -o UserKnownHostsFile=" ++ (Pathname.join (Pathname.join dir ".ssh") "known_hosts").shown else "")) ∧
        KeysStaged m.files P (keyContent m.files m.workDir sshDir keys) ((stageSsh sshDir dir).exec m).2.files) ∧
      (¬ Stageable m.writeFault sshDir dir keys P names →
        ∃ e, ((stageSsh sshDir dir).exec m).1 = .error (.io e) ∧
          ((∀ name ∈ names, m.writeFault (Pathname.join (Pathname.join dir ".ssh") name) = none) →
            e = .os .nameTooLong)) ∧
      ∀ n : Machine ρ, n.workDir = m.workDir → n.writeFault = m.writeFault → n.files.WellFormed →
        (∀ l, n.files.get? l = m.files.get? l) →
        ((stageSsh sshDir dir).exec n).1 = ((stageSsh sshDir dir).exec m).1 ∧
          ∀ l, ((stageSsh sshDir dir).exec n).2.files.get? l = ((stageSsh sshDir dir).exec m).2.files.get? l := by
  obtain ⟨log, hexec⟩ := h.exec_stageSsh
  refine ⟨keyNames m.files m.workDir sshDir keys, pairwise_keyNames h.wellFormed, fun name => mem_keyNames_iff,
    fun hstageable => ?_, fun hnot => ?_, fun n hhere hfault hwell hsame => ?_⟩
  · rw [hexec]
    refine ⟨?_, Mounted.keysStaged hstageable h⟩
    rw [stagedOutcome, if_pos ⟨hstageable.directory, hstageable.again⟩,
      Mounted.stagedKeys_of_stageable hstageable]
    simp only [Option.elim_none, sshCommand, decide_eq_true_eq]
    rfl
  · rw [hexec]
    exact stagedOutcome_of_not_stageable hnot
  · have hother := h.of_get?_eq hsame hwell
    rw [← hhere] at hother
    obtain ⟨log', hexec'⟩ := hother.exec_stageSsh
    rw [hexec, hexec', hhere, hfault]
    exact (stagedKeys_of_get?_eq h hsame hwell).symm

/-- Keys that are links to files of another directory, a public key, known hosts and a directory. -/
theorem staged_keys_exact_of_links :
    let m : Machine Unit := { Machine.bare () with
      files := ⟨[(["work"], .dir 0o755), (["private"], .dir 0o700), (["keys"], .dir 0o755),
        (["keys", "id_rsa"], .link "..data/id_rsa"), (["keys", "id_ed"], .file [1] 0o644),
        (["keys", "id_ed.pub"], .file [2] 0o644), (["keys", "known_hosts"], .file [3] 0o644),
        (["keys", "..data"], .dir 0o755), (["keys", "..data", "id_rsa"], .file [4] 0o644)]⟩ }
    Mounted m.files m.workDir "/keys" ["keys"] "/private" ["private"] ∧
      ∃ m', (stageSsh "/keys" "/private").exec m = (.ok (some ("ssh -i /private/.ssh/id_ed" ++
          " -i /private/.ssh/id_rsa -o UserKnownHostsFile=/private/.ssh/known_hosts")), m') ∧
        m'.files.get? ["private", ".ssh", "id_rsa"] = some (.file [4] 0o400) ∧
        m'.files.get? ["private", ".ssh", "..data"] = none := by
  intro m
  have hmounted : Mounted m.files m.workDir "/keys" ["keys"] "/private" ["private"] :=
    ⟨by decide, by decide, ⟨0o755, by rfl⟩, by decide +kernel, ⟨0o700, by rfl⟩, by rfl⟩
  obtain ⟨names, hsorted, hnames, hstaged, -, -⟩ := staged_keys_exact m hmounted
  have hkeys : ∀ name ∈ m.files.childNames ["keys"],
      (keyContent m.files m.workDir "/keys" ["keys"] name).isSome = true ↔
        name ∈ (["id_ed", "id_ed.pub", "id_rsa", "known_hosts"] : List ByteString) := by decide +kernel
  have hlisted : ∀ name ∈ (["id_ed", "id_ed.pub", "id_rsa", "known_hosts"] : List ByteString),
      name ∈ m.files.childNames ["keys"] := by decide +kernel
  obtain rfl : names = ["id_ed", "id_ed.pub", "id_rsa", "known_hosts"] := by
    refine eq_of_pairwise_lt hsorted (by decide +kernel) fun name =>
      (hnames name).trans ⟨fun h => ?_, fun h => ?_⟩
    · exact (hkeys name (mem_keyNames.mp (mem_keyNames_iff.mpr h)).1).mp h
    · exact (hkeys name (hlisted name h)).mpr h
  have htakes : ∀ name ∈ (["id_ed", "id_ed.pub", "id_rsa", "known_hosts"] : List ByteString),
      Fits (Pathname.join "/private" ".ssh") name := by decide +kernel
  obtain ⟨hcommand, hfiles⟩ :=
    hstaged ⟨by decide +kernel, by decide, fun name hname => ⟨htakes name hname, rfl⟩⟩
  refine ⟨hmounted, _, Prod.ext (hcommand.trans (by decide +kernel)) rfl, ?_, ?_⟩
  · exact (hfiles.copy "id_rsa").trans (by decide +kernel)
  · exact (hfiles.copy "..data").trans (by decide +kernel)

/-- **An empty directory may fail to be staged**, as the directory for the copies is come upon in it under a path
name that is too long. -/
theorem stageSsh_fails_without_keys :
    let m : Machine Unit := { Machine.bare () with
      files := ⟨[(["work"], .dir 0o755), (["work", "private"], .dir 0o700)]⟩ }
    let path := SymlinkAudit.slashed "private" 4086
    Mounted m.files m.workDir path ["work", "private"] "/work/private" ["work", "private"] ∧
      ((stageSsh path "/work/private").exec m).1 = .error (.io (.os .nameTooLong)) := by
  intro m path
  have hsizes : ("private" : ByteString).length = 7 ∧ (".ssh" : ByteString).length = 4 := ⟨rfl, rfl⟩
  have hsize : path.length = 4093 := by rw [SymlinkAudit.length_slashed, hsizes.1]
  have hpath : Pathname.isPathname path = true := SymlinkAudit.isPathname_slashed (by decide) 4086
  have hrelative : Pathname.isAbsolute path = false := SymlinkAudit.isAbsolute_slashed (by decide) 4086
  have hends : Pathname.endsWithSlash path = true := SymlinkAudit.endsWithSlash_slashed "private" 4085
  have hnames : Pathname.names path = ["private"] := SymlinkAudit.names_slashed "private" 4086
  clear_value path
  have hsource : m.files.locate m.workDir path = .ok (["work", "private"], .dir 0o700) := by
    rw [FileSystem.locate_eq_ok, FileSystem.resolve_of_askable ⟨hpath, by rw [hsize]; decide⟩]
    unfold FileSystem.startOf Pathname.parts
    rw [hrelative, hends, hnames]
    rfl
  have hmounted : Mounted m.files m.workDir path ["work", "private"] "/work/private" ["work", "private"] :=
    ⟨by decide, by decide, ⟨0o700, hsource⟩,
      fun name hname => absurd hname (by simp [m, FileSystem.childNames]), ⟨0o700, by rfl⟩, by rfl⟩
  have hlong : ¬ Fits path ".ssh" := by
    rintro ⟨-, hshort⟩
    unfold Pathname.join at hshort
    rw [if_neg (by decide), if_pos (Or.inr hends), ByteString.length_append, hsize, hsizes.2] at hshort
    exact absurd hshort (by decide)
  obtain ⟨log, hexec⟩ := hmounted.exec_stageSsh
  refine ⟨hmounted, ?_⟩
  rw [hexec, stagedOutcome, if_neg fun hboth => hlong (hboth.2 rfl)]

end Checkout.Credentials
