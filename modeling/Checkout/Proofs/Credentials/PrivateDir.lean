import Checkout.Credentials.Staging
import Checkout.Proofs.FileSystem.Child
import Checkout.Proofs.Triple

/-!
# The private directory

Staging fills a private directory. `StagedEntry` lists what it may put there, `Filled` says that nothing
else was done to the files, and `Private` is the state of the directory meanwhile: it can be reached, and
what is in it was staged. A state that is filled stays private, and keeps everything.

Results:
* `Filled.private`, `Filled.keeps`: filling the private directory goes on;
* `triple_writePrivate`, `triple_makeKeyDir`: the two steps that fill it.
-/

namespace Checkout.Credentials

open FileSystem (isBelow Ordinary Keeps)

variable {ρ : Type} {P l : Location} {K K' : ByteString → Prop} {e e' : Entry} {fs fs' fs'' : FileSystem}
  {here : Location} {dir : ByteString}

/-- What staging may put into the private directory at `P`: the files of basic authentication, a
directory for keys, and keys with the names that `K` admits. Files may be read by their owner only. -/
inductive StagedEntry (P : Location) (K : ByteString → Prop) : Location → Entry → Prop
  | basic {name : ByteString} {content : List UInt8} : name = ".git-credentials" ∨ name = ".gitconfig" →
      StagedEntry P K (P ++ [name]) (.file content 0o400)
  | keyDir : StagedEntry P K (P ++ [(".ssh" : ByteString)]) (.dir 0o700)
  | key {name : ByteString} {content : List UInt8} : K name →
      StagedEntry P K (P ++ [(".ssh" : ByteString), name]) (.file content 0o400)

namespace StagedEntry

theorem mono (h : StagedEntry P K l e) (hK : ∀ name, K name → K' name) : StagedEntry P K' l e := by
  cases h with
  | basic hname => exact .basic hname
  | keyDir => exact .keyDir
  | key hname => exact .key (hK _ hname)

theorem isBelow (h : StagedEntry P K l e) : isBelow P l = true := by
  rw [FileSystem.isBelow_iff]
  cases h <;> exact ⟨List.prefix_append _ _, by simp⟩

theorem ne_nil (h : StagedEntry P K l e) : l ≠ [] := by
  cases h <;> simp

/-- A location can only ever hold one kind of staged entry. -/
theorem kind_eq (h : StagedEntry P K l e) (h' : StagedEntry P K' l e') : e.kind = e'.kind := by
  cases h with
  | basic hname =>
    generalize hl : P ++ [_] = l at h'
    cases h' with
    | basic _ => rfl
    | keyDir =>
      have hsame := List.singleton_inj.mp (List.append_cancel_left hl)
      subst hsame
      simp at hname
    | key _ => simp at hl
  | keyDir =>
    generalize hl : P ++ [(".ssh" : ByteString)] = l at h'
    cases h' with
    | basic hname =>
      have hsame := List.singleton_inj.mp (List.append_cancel_left hl)
      subst hsame
      simp at hname
    | keyDir => rfl
    | key _ => simp at hl
  | key _ =>
    generalize hl : P ++ [(".ssh" : ByteString), _] = l at h'
    cases h' with
    | basic _ => simp at hl
    | keyDir => simp at hl
    | key _ => rfl

/-- A staged file may be read by its owner only. -/
theorem mode_eq {content : List UInt8} {bits : Nat} (h : StagedEntry P K l (.file content bits)) :
    bits = 0o400 := by
  cases h <;> rfl

/-- What is staged in the directory for keys is a private file. -/
theorem eq_file {name : ByteString} (h : StagedEntry P K (P ++ [(".ssh" : ByteString)] ++ [name]) e) :
    ∃ content, e = .file content 0o400 := by
  generalize hl : P ++ [(".ssh" : ByteString)] ++ [name] = l at h
  cases h with
  | basic _ => exact ⟨_, rfl⟩
  | keyDir => simp at hl
  | key _ => exact ⟨_, rfl⟩

theorem ordinary (h : StagedEntry P K l e) (hP : ∀ name ∈ P, Ordinary name)
    (hK : ∀ name, K name → Ordinary name) : ∀ name ∈ l, Ordinary name := by
  have hcredentials : Ordinary ".git-credentials" := by decide
  have hconfig : Ordinary ".gitconfig" := by decide
  have hssh : Ordinary ".ssh" := by decide
  intro name hname
  cases h with
  | basic hbasic =>
    rcases List.mem_append.mp hname with hname | hname
    · exact hP name hname
    · rw [List.mem_singleton.mp hname]
      rcases hbasic with rfl | rfl
      · exact hcredentials
      · exact hconfig
  | keyDir =>
    rcases List.mem_append.mp hname with hname | hname
    · exact hP name hname
    · exact List.mem_singleton.mp hname ▸ hssh
  | key hkey =>
    rcases List.mem_append.mp hname with hname | hname
    · exact hP name hname
    · simp only [List.mem_cons, List.not_mem_nil, or_false] at hname
      rcases hname with rfl | rfl
      · exact hssh
      · exact hK _ hkey

end StagedEntry

/-! ## Filling -/

/-- Nothing was done to the files but to put staged entries into the private directory. -/
inductive Filled (P : Location) (K : ByteString → Prop) (fs : FileSystem) : FileSystem → Prop
  | refl : Filled P K fs fs
  | put {fs' : FileSystem} {l : Location} {e : Entry} : Filled P K fs fs' → StagedEntry P K l e →
      Filled P K fs (fs'.put l e)

/-- The private directory at `P` can be reached, and what is in it was staged. -/
structure Private (here : Location) (dir : ByteString) (P : Location) (K : ByteString → Prop)
    (fs : FileSystem) : Prop where
  named : fs.Named
  located : ∃ mode, fs.locate here dir = .ok (P, .dir mode)
  staged : ∀ l e, isBelow P l = true → fs.get? l = some e → StagedEntry P K l e

namespace Filled

theorem trans (h : Filled P K fs fs') (h' : Filled P K fs' fs'') : Filled P K fs fs'' := by
  induction h' with
  | refl => exact h
  | put _ he ih => exact ih.put he

theorem mono (h : Filled P K fs fs') (hK : ∀ name, K name → K' name) : Filled P K' fs fs' := by
  induction h with
  | refl => exact .refl
  | put _ he ih => exact ih.put (he.mono hK)

/-- **A location is as it was, or holds a staged entry.** -/
theorem get? (h : Filled P K fs fs') (l : Location) :
    fs'.get? l = fs.get? l ∨ ∃ e, fs'.get? l = some e ∧ StagedEntry P K l e := by
  induction h with
  | refl => exact Or.inl rfl
  | @put fs' at_ e _ he ih =>
    by_cases hl : l = at_
    · subst hl
      exact Or.inr ⟨e, FileSystem.get?_put_self he.ne_nil, he⟩
    · rw [FileSystem.get?_put_of_ne hl]
      exact ih

end Filled

namespace Private

theorem mono (h : Private here dir P K fs) (hK : ∀ name, K name → K' name) :
    Private here dir P K' fs :=
  { h with staged := fun l e hl he => (h.staged l e hl he).mono hK }

/-- An empty directory is private. -/
theorem of_empty {mode : Nat} (hnamed : fs.Named) (hdir : fs.locate here dir = .ok (P, .dir mode))
    (hempty : fs.below P = []) : Private here dir P K fs :=
  ⟨hnamed, ⟨mode, hdir⟩, fun l e hl he => by
    rw [FileSystem.get?_eq_none_of_below hempty hl] at he
    cases he⟩

/-- A staged entry takes no place that something of another kind holds. -/
theorem kind_eq (h : Private here dir P K fs) (he : StagedEntry P K' l e) :
    ∀ old, fs.get? l = some old → e.kind = old.kind :=
  fun old hold => he.kind_eq (h.staged l old he.isBelow hold)

theorem ordinary (h : Private here dir P K fs) : ∀ name ∈ P, Ordinary name := by
  obtain ⟨mode, hfound⟩ := h.located
  exact h.named.location (FileSystem.locate_eq_ok_iff.mp hfound).2.1

/-- **One more staged entry** leaves the directory private. -/
theorem put (h : Private here dir P K fs) (hK : ∀ name, K name → Ordinary name)
    (he : StagedEntry P K l e) : Private here dir P K (fs.put l e) := by
  have hkeeps := FileSystem.keeps_put (h.kind_eq he)
  refine ⟨h.named.put (he.ordinary h.ordinary hK), ?_, ?_⟩
  · obtain ⟨mode, hfound⟩ := h.located
    obtain ⟨e', hfound', hkind⟩ := hkeeps.locate hfound
    cases e' with
    | dir mode' => exact ⟨mode', hfound'⟩
    | file _ _ => cases hkind
    | link _ => cases hkind
    | device => cases hkind
  · intro at_ old hbelow hold
    by_cases hat : at_ = l
    · subst hat
      rw [FileSystem.get?_put_self he.ne_nil] at hold
      cases hold
      exact he
    · rw [FileSystem.get?_put_of_ne hat] at hold
      exact h.staged at_ old hbelow hold

end Private

theorem Filled.private (h : Filled P K fs fs') (hK : ∀ name, K name → Ordinary name)
    (hfs : Private here dir P K fs) : Private here dir P K fs' := by
  induction h with
  | refl => exact hfs
  | put _ he ih => exact ih.put hK he

theorem Filled.keeps (h : Filled P K fs fs') (hK : ∀ name, K name → Ordinary name)
    (hfs : Private here dir P K fs) : Keeps fs fs' := by
  induction h with
  | refl => exact Keeps.refl fs
  | put hfilled he ih => exact ih.trans (FileSystem.keeps_put ((hfilled.private hK hfs).kind_eq he))

/-- A directory that was found is found again, after more has been staged. -/
theorem Filled.locate_dir (h : Filled P K fs fs') (hK : ∀ name, K name → Ordinary name)
    (hfs : Private here dir P K fs) {path : ByteString} {mode : Nat}
    (hfound : fs.locate here path = .ok (l, .dir mode)) :
    ∃ mode', fs'.locate here path = .ok (l, .dir mode') := by
  obtain ⟨e', hfound', hkind⟩ := (h.keeps hK hfs).locate hfound
  cases e' with
  | dir mode' => exact ⟨mode', hfound'⟩
  | file _ _ => cases hkind
  | link _ => cases hkind
  | device => cases hkind

/-- A staged file that was found is found again, after more has been staged. -/
theorem Filled.locate_file (h : Filled P K fs fs') (hK : ∀ name, K name → Ordinary name)
    (hfs : Private here dir P K fs) {path : ByteString} {content : List UInt8} {mode : Nat}
    (hbelow : isBelow P l = true) (hfound : fs.locate here path = .ok (l, .file content mode)) :
    ∃ content', fs'.locate here path = .ok (l, .file content' 0o400) := by
  obtain ⟨e', hfound', hkind⟩ := (h.keeps hK hfs).locate hfound
  have hentry := (FileSystem.locate_eq_ok_iff.mp hfound').2.1
  have hstaged := (h.private hK hfs).staged l e' hbelow hentry
  cases hstaged with
  | basic _ => exact ⟨_, hfound'⟩
  | keyDir => cases hkind
  | key _ => exact ⟨_, hfound'⟩

/-! ## Steps that fill -/

/-- What comes of writing a private file where `old` stands: what is put in the place, if anything is, and how
the writing fails, if it does. -/
def privateWrite (fault : Option WriteFault) (fits : Bool) (old : Option Entry) (content : List UInt8) :
    Option Entry × Option IoError :=
  match fault with
  | none => if fits then (some (.file content privateFileMode), none) else (none, some (.os .nameTooLong))
  | some (.unopened e) => (none, some e)
  | some (.after written e) =>
    if fits then (some (.file (content.take written) (FileSystem.bitsOver old)), some e)
    else (none, some (.os .nameTooLong))

/-- **Writing a private file** under a name in a directory where nothing or a file stands. -/
theorem exec_writePrivate {m : Machine ρ} {inner name : ByteString} {Q : Location} {mode : Nat}
    (hinner : m.files.locate m.workDir inner = .ok (Q, .dir mode)) (hname : Ordinary name)
    (hfree : (m.files.get? (Q ++ [name])).all Entry.isFile = true) (content : List UInt8) :
    (writePrivate (Pathname.join inner name) content).exec m =
      let w := privateWrite (m.writeFault (Pathname.join inner name)) (decide (FileSystem.Fits inner name))
        (m.files.get? (Q ++ [name])) content
      (w.2.elim (.ok ()) fun e => .error (.io e),
        { m with files := w.1.elim m.files (m.files.put (Q ++ [name])) }) := by
  have hwrite := FileSystem.writeBytes_join hinner hname hfree
  unfold writePrivate privateWrite
  rw [Run.exec_bind, Run.exec_writeFile]
  cases m.writeFault (Pathname.join inner name) with
  | none =>
    dsimp only
    rw [Run.exec_alter, hwrite]
    by_cases hfits : FileSystem.Fits inner name
    · have hkind : ∀ old, m.files.get? (Q ++ [name]) = some old →
          (Entry.file content (FileSystem.bitsOver (m.files.get? (Q ++ [name])))).kind = old.kind := by
        intro old hold
        rw [hold, Option.all_some] at hfree
        cases old <;> simp_all [Entry.isFile, Entry.kind]
      have hmode := FileSystem.setMode_of_locate
        (FileSystem.locate_put_join hinner hname hkind rfl hfits) privateFileMode
      simp only [hfits, if_true, decide_true]
      rw [Run.exec_alter]
      dsimp only
      rw [hmode, FileSystem.put_put]
      rfl
    · simp only [hfits, if_false, decide_false]
      rfl
  | some fault =>
    cases fault with
    | unopened e => rfl
    | after written e =>
      dsimp only
      rw [hwrite]
      by_cases hfits : FileSystem.Fits inner name
      · simp only [hfits, if_true, decide_true]
        rfl
      · simp only [hfits, if_false, decide_false]
        rfl

/-- A file can be written under a name in a directory: the path name is not too long, and the writing does not
break off. -/
def Takes (fault : ByteString → Option WriteFault) (dir name : ByteString) : Prop :=
  FileSystem.Fits dir name ∧ fault (Pathname.join dir name) = none

theorem privateWrite_of_takes {fault : ByteString → Option WriteFault} {name : ByteString}
    (h : Takes fault dir name) (old : Option Entry) (content : List UInt8) :
    privateWrite (fault (Pathname.join dir name)) (decide (FileSystem.Fits dir name)) old content =
      (some (.file content privateFileMode), none) := by
  simp [privateWrite, h.1, h.2]

theorem exec_writePrivate_of_takes {m : Machine ρ} {inner name : ByteString} {Q : Location} {mode : Nat}
    (hinner : m.files.locate m.workDir inner = .ok (Q, .dir mode)) (hname : Ordinary name)
    (hfree : (m.files.get? (Q ++ [name])).all Entry.isFile = true) (htakes : Takes m.writeFault inner name)
    (content : List UInt8) :
    (writePrivate (Pathname.join inner name) content).exec m =
      (.ok (), { m with files := m.files.put (Q ++ [name]) (.file content privateFileMode) }) := by
  rw [exec_writePrivate hinner hname hfree, privateWrite_of_takes htakes]
  rfl

/-- A path name from the private directory on leads to a private file there. -/
def PrivateFile (fs : FileSystem) (here : Location) (dir : ByteString) (P : Location)
    (names : List ByteString) : Prop :=
  ∃ content, fs.locate here (names.foldl Pathname.join dir) = .ok (P ++ names, .file content 0o400)

/-- A private file is still there after more has been staged. -/
theorem PrivateFile.filled {names : List ByteString} {fs' : FileSystem} (hK : ∀ name, K name → Ordinary name)
    (hfs : Private here dir P K fs) (hnames : names ≠ []) (h : PrivateFile fs here dir P names)
    (hfs' : Filled P K fs fs') : PrivateFile fs' here dir P names := by
  obtain ⟨content, hlocated⟩ := h
  exact hfs'.locate_file hK hfs (FileSystem.isBelow_iff.mpr ⟨by simp, by simpa using hnames⟩) hlocated

variable {start : FileSystem} {fault : ByteString → Option WriteFault}

/-- What staging leaves when it fails: the private directory as far as it was filled. If a write broke off, a
file is there that has the bits of a new one. -/
inductive Abandoned (fault : ByteString → Option WriteFault) (dir : ByteString) (P : Location)
    (K : ByteString → Prop) (start : FileSystem) : Error → FileSystem → Prop
  | filled {e : Error} {fs : FileSystem} : Filled P K start fs → Abandoned fault dir P K start e fs
  | brokenOff {fs : FileSystem} {names : List ByteString} {content : List UInt8} {written : Nat}
      {e : IoError} : Filled P K start fs → StagedEntry P K (P ++ names) (.file content 0o400) →
      fault (names.foldl Pathname.join dir) = some (.after written e) →
      Abandoned fault dir P K start (.io e) (fs.put (P ++ names) (.file content 0o644))

theorem Abandoned.after {e : Error} (h : Abandoned fault dir P K fs e fs') (hfs : Filled P K start fs) :
    Abandoned fault dir P K start e fs' := by
  cases h with
  | filled h => exact .filled (hfs.trans h)
  | brokenOff h he hfault => exact .brokenOff (hfs.trans h) he hfault

/-- **A private file whose writing broke off** has the bits of a new file, unless it was there before. -/
theorem Filled.abandoned {names : List ByteString} {written : Nat} {e : IoError} (h : Filled P K start fs)
    (hfs : Private here dir P K fs) (hstaged : ∀ content, StagedEntry P K (P ++ names) (.file content 0o400))
    (hfault : fault (names.foldl Pathname.join dir) = some (.after written e)) (content : List UInt8) :
    Abandoned fault dir P K start (.io e)
      (fs.put (P ++ names) (.file content (FileSystem.bitsOver (fs.get? (P ++ names))))) := by
  cases hold : fs.get? (P ++ names) with
  | none => exact .brokenOff h (hstaged _) hfault
  | some old =>
    have hkind := hfs.kind_eq (hstaged content) old hold
    have hbits : FileSystem.bitsOver (some old) = 0o400 := by
      cases old with
      | file _ bits => exact (hfs.staged _ _ (hstaged content).isBelow hold).mode_eq
      | dir _ => cases hkind
      | link _ => cases hkind
      | device => cases hkind
    rw [hbits]
    exact .filled (h.put (hstaged content))

/-- **Writing a private file** into the private directory or the directory for keys. -/
theorem triple_writePrivate (front : List ByteString) {name : ByteString} {mode : Nat}
    (hK : ∀ name, K name → Ordinary name) (hstart : Private here dir P K start)
    (hinner : start.locate here (front.foldl Pathname.join dir) = .ok (P ++ front, .dir mode))
    (hname : Ordinary name)
    (hstaged : ∀ content, StagedEntry P K (P ++ (front ++ [name])) (.file content 0o400))
    (content : List UInt8) :
    Run.Triple (ρ := ρ) here fault (Abandoned fault dir P K start) (Filled P K start)
      (writePrivate (Pathname.join (front.foldl Pathname.join dir) name) content) fun _ fs =>
        PrivateFile fs here dir P (front ++ [name]) ∧ Filled P K start fs := by
  rintro m ⟨rfl, rfl⟩ hm
  obtain ⟨mode', hinner'⟩ := hm.locate_dir hK hstart hinner
  have hprivate := hm.private hK hstart
  have hpath : (front ++ [name]).foldl Pathname.join dir =
      Pathname.join (front.foldl Pathname.join dir) name := List.foldl_append
  rw [← List.append_assoc] at hstaged
  have hkind := hprivate.kind_eq (hstaged content)
  -- What stands in the place is a private file, so that writing over it leaves one.
  have hfree : (m.files.get? (P ++ front ++ [name])).all Entry.isFile = true := by
    cases hold : m.files.get? (P ++ front ++ [name]) with
    | none => rfl
    | some old => exact (Entry.isFile_of_kind_eq (hkind old hold)).symm
  rw [exec_writePrivate hinner' hname hfree]
  unfold privateWrite
  cases hfault : m.writeFault (Pathname.join (front.foldl Pathname.join dir) name) with
  | none =>
    by_cases hfits : FileSystem.Fits (front.foldl Pathname.join dir) name
    · simp only [hfits, decide_true, if_true]
      refine ⟨⟨rfl, rfl⟩, ⟨content, ?_⟩, hm.put (hstaged content)⟩
      rw [hpath, ← List.append_assoc]
      exact FileSystem.locate_put_join hinner' hname hkind rfl hfits
    · simp only [hfits, decide_false]
      exact ⟨⟨rfl, rfl⟩, .filled hm⟩
  | some fault =>
    cases fault with
    | unopened e => exact ⟨⟨rfl, rfl⟩, .filled hm⟩
    | after written e =>
      by_cases hfits : FileSystem.Fits (front.foldl Pathname.join dir) name
      · simp only [hfits, decide_true, if_true]
        rw [List.append_assoc] at hstaged ⊢
        exact ⟨⟨rfl, rfl⟩, hm.abandoned hprivate hstaged (hpath ▸ hfault) _⟩
      · simp only [hfits, decide_false]
        exact ⟨⟨rfl, rfl⟩, .filled hm⟩

/-- Makes the directory for keys. -/
def makeKeyDir (destination : ByteString) : Run ρ Unit := do
  Run.makeDirs destination
  Run.alter fun fs here => fs.setMode here destination Run.privateDirMode

/-- **Making the directory for keys** in a directory where nothing stands under its name or a directory does. -/
theorem exec_makeKeyDir {m : Machine ρ} {mode : Nat} (hdir : m.files.locate m.workDir dir = .ok (P, .dir mode))
    (hfree : (m.files.get? (P ++ [(".ssh" : ByteString)])).all Entry.isDir = true) :
    (makeKeyDir (Pathname.join dir ".ssh")).exec m =
      if FileSystem.Fits dir ".ssh" then
        (.ok (), { m with files := m.files.put (P ++ [(".ssh" : ByteString)]) (.dir 0o700) })
      else (.error (.io (.os .nameTooLong)), m) := by
  have hname : Ordinary ".ssh" := by decide
  unfold makeKeyDir
  by_cases hfits : FileSystem.Fits dir ".ssh"
  · obtain ⟨made, bits, hmake, hthere, hput⟩ := FileSystem.exists_made hdir hname hfree hfits
    have hstep : (Run.makeDirs (Pathname.join dir ".ssh")).exec m =
        (.ok (), { m with files := made }) := by
      rw [Run.exec_makeDirs, hmake]
    rw [if_pos hfits, Run.exec_bind_ok hstep, Run.exec_alter]
    dsimp only
    rw [FileSystem.setMode_of_locate hthere, hput]
    rfl
  · have hmake := FileSystem.makeDirs_join hdir hname hfree
    rw [if_neg hfits] at hmake
    have hstep : (Run.makeDirs (Pathname.join dir ".ssh")).exec m =
        (.error (.io (.os .nameTooLong)), m) := by
      rw [Run.exec_makeDirs, hmake]
    rw [if_neg hfits, Run.exec_bind_error hstep]

/-- **The directory for keys** is made as a whole or not at all. -/
theorem triple_makeKeyDir (hK : ∀ name, K name → Ordinary name) (hstart : Private here dir P K start) :
    Run.Triple (ρ := ρ) here fault (Abandoned fault dir P K start) (Filled P K start)
      (makeKeyDir (Pathname.join dir ".ssh")) fun _ fs =>
        fs.locate here (Pathname.join dir ".ssh") = .ok (P ++ [(".ssh" : ByteString)], .dir 0o700) ∧
          Filled P K start fs := by
  rintro m ⟨rfl, rfl⟩ hm
  have hprivate := hm.private hK hstart
  obtain ⟨mode, hdir⟩ := hprivate.located
  have hkind := hprivate.kind_eq (.keyDir : StagedEntry P K _ _)
  have hfree : (m.files.get? (P ++ [(".ssh" : ByteString)])).all Entry.isDir = true := by
    cases hold : m.files.get? (P ++ [(".ssh" : ByteString)]) with
    | none => rfl
    | some old => exact (Entry.isDir_of_kind_eq (hkind old hold)).symm
  rw [exec_makeKeyDir hdir hfree]
  by_cases hfits : FileSystem.Fits dir ".ssh"
  · rw [if_pos hfits]
    exact ⟨⟨rfl, rfl⟩, FileSystem.locate_put_join hdir (by decide) hkind rfl hfits, hm.put .keyDir⟩
  · rw [if_neg hfits]
    exact ⟨⟨rfl, rfl⟩, .filled hm⟩

end Checkout.Credentials
