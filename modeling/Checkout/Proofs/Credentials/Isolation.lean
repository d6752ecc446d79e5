import Checkout.Proofs.Credentials.KeyCommand
import Checkout.Proofs.Credentials.PrivateDir

/-!
# Staging keeps to the private directory

However staging ends, it has only filled the private directory, and the names of the keys in it are those
of files in the directory that the keys come from, as it was when it was read. If staging ends with an
environment, the files that this one names are there. One file may be left that is not private: the one
whose writing broke off, with which staging ends.

The directory of the keys is read late. `found` is the file system then; it differs from the one before by
files of basic authentication and an empty directory for keys, which matters only if a private directory
lies in the directory of the keys.

Results:
* `triple_stageBasicAuth`, `triple_stageSsh`: the parts of staging;
* `triple_stageInto`, `stageInto_isolated`: the whole.
-/

namespace Checkout.Credentials

open FileSystem (isBelow Ordinary)

variable {ρ : Type} {P : Location} {K : ByteString → Prop} {here : Location} {dir : ByteString}
  {fault : ByteString → Option WriteFault} {start found fs : FileSystem}

/-- A command is put together from options for files that are `present` in the directory for keys. A shell
that has merely to take it apart reads these options just if it reads each of the path names as a whole. -/
def UsesKeys (dir : ByteString) (present : List ByteString → Prop) (command : String) : Prop :=
  ∃ options : List KeyOption, command = keyCommand (Pathname.join dir ".ssh") options ∧
    (∀ o ∈ options, present [".ssh", o.name]) ∧
    (readWords command = some (keyWords (Pathname.join dir ".ssh") options) ↔
      ∀ o ∈ options, ReadWhole (o.path (Pathname.join dir ".ssh")))

/-- The files that an environment names are in the private directory, each at a place of which `present`
holds. -/
structure PointsTo (dir : ByteString) (present : List ByteString → Prop) (env : GitEnvironment) : Prop where
  config : ∀ path, env.gitConfig = some path →
    path = Pathname.join dir ".gitconfig" ∧ present [".gitconfig"]
  command : ∀ command, env.sshCommand = some command → UsesKeys dir present command

/-! ## Basic authentication -/

section Parts

variable (hK : ∀ name, K name → Ordinary name) (hstart : Private here dir P K start)

include hK hstart

theorem triple_writeBasic {name : ByteString} (hname : name = ".git-credentials" ∨ name = ".gitconfig")
    (content : List UInt8) :
    Run.Triple (ρ := ρ) here fault (Abandoned fault dir P K start) (Filled P K start)
      (writePrivate (Pathname.join dir name) content) fun _ fs =>
        PrivateFile fs here dir P [name] ∧ Filled P K start fs := by
  obtain ⟨mode, hdir⟩ := hstart.located
  have hordinary : Ordinary name := by
    rcases hname with rfl | rfl <;> decide
  exact triple_writePrivate [] hK hstart (by rw [List.append_nil]; exact hdir) hordinary
    (fun _ => .basic hname) content

theorem triple_stageStore (authDir : ByteString) :
    Run.Triple (ρ := ρ) here fault (Abandoned fault dir P K start) (Filled P K start) (stageStore authDir dir)
      fun config fs => (config = Pathname.join dir ".gitconfig" ∧
        PrivateFile fs here dir P [".gitconfig"]) ∧ Filled P K start fs := by
  unfold stageStore
  dsimp only
  refine Run.triple_bind (Run.triple_write _ _ _) fun _ => ?_
  refine Run.triple_then (Run.triple_query _ fun _ _ h => .filled h) fun content => ?_
  refine Run.triple_then (triple_writeBasic hK hstart (Or.inl rfl) content) fun _ => ?_
  refine Run.triple_then (Run.triple_query _ fun _ _ h => .filled h) fun text => ?_
  refine Run.triple_bind (triple_writeBasic hK hstart (Or.inr rfl) _) fun _ => ?_
  refine Run.triple_bind (Run.triple_write _ _ _) fun _ => ?_
  exact Run.triple_pure fun fs h => ⟨⟨rfl, h.1⟩, h.2⟩

theorem triple_stageUser (url : String) (authDir : ByteString) :
    Run.Triple (ρ := ρ) here fault (Abandoned fault dir P K start) (Filled P K start)
      (stageUser url authDir dir) fun config fs => (config = Pathname.join dir ".gitconfig" ∧
        PrivateFile fs here dir P [".gitconfig"]) ∧ Filled P K start fs := by
  unfold stageUser
  dsimp only
  refine Run.triple_bind (Run.triple_write _ _ _) fun _ => ?_
  refine Run.triple_then (Run.triple_query _ fun _ _ h => .filled h) fun username => ?_
  refine Run.triple_then (Run.triple_query _ fun _ _ h => .filled h) fun password => ?_
  refine Run.triple_then (Run.triple_ofExcept _ fun _ _ h => .filled h) fun host => ?_
  refine Run.triple_then (triple_writeBasic hK hstart (Or.inl rfl) _) fun _ => ?_
  refine Run.triple_bind (triple_writeBasic hK hstart (Or.inr rfl) _) fun _ => ?_
  refine Run.triple_bind (Run.triple_write _ _ _) fun _ => ?_
  exact Run.triple_pure fun fs h => ⟨⟨rfl, h.1⟩, h.2⟩

/-- **Basic authentication** is staged into the private directory, and the configuration is there. -/
theorem triple_stageBasicAuth (url : String) (authDir : ByteString) :
    Run.Triple (ρ := ρ) here fault (Abandoned fault dir P K start) (Filled P K start)
      (stageBasicAuth url authDir dir) fun config fs => (∀ path, config = some path → path = Pathname.join dir ".gitconfig" ∧
        PrivateFile fs here dir P [".gitconfig"]) ∧ Filled P K start fs := by
  unfold stageBasicAuth
  dsimp only
  refine Run.triple_then (Run.triple_ask _) fun isThere => ?_
  refine Run.triple_ite (fun _ => ?_) fun _ => ?_
  · refine Run.triple_bind (Run.triple_write _ _ _) fun _ => ?_
    exact Run.triple_pure fun fs h => ⟨fun path hnone => absurd hnone (by simp), h⟩
  refine Run.triple_then (Run.triple_ask _) fun hasStore => ?_
  refine Run.triple_ite (fun _ => ?_) fun _ => ?_
  · refine Run.triple_bind (triple_stageStore hK hstart authDir) fun config => ?_
    refine Run.triple_pure fun fs h => ⟨fun path hpath => ?_, h.2⟩
    cases hpath
    exact h.1
  refine Run.triple_then (Run.triple_ask _) fun hasUser => ?_
  refine Run.triple_ite (fun _ => ?_) fun _ => ?_
  · refine Run.triple_bind (triple_stageUser hK hstart url authDir) fun config => ?_
    refine Run.triple_pure fun fs h => ⟨fun path hpath => ?_, h.2⟩
    cases hpath
    exact h.1
  · exact Run.triple_throw fun _ h => .filled h

end Parts

/-! ## Keys -/

/-- A name in the directory that the keys come from which leads to a file. -/
def KeyName (found : FileSystem) (here : Location) (sshDir : Option ByteString) (name : ByteString) : Prop :=
  ∃ keys l mode, sshDir = some keys ∧ found.locate here keys = .ok (l, .dir mode) ∧
    name ∈ found.childNames l ∧ found.isFile here (Pathname.join keys name) = true

theorem KeyName.ordinary {sshDir : Option ByteString} {name : ByteString} (hnamed : found.Named)
    (h : KeyName found here sshDir name) : Ordinary name := by
  obtain ⟨keys, l, mode, -, -, hname, -⟩ := h
  exact hnamed.childNames hname

/-- A name that is kept leads to a file. -/
theorem triple_keepFile (keys name : ByteString) :
    Run.Triple (ρ := ρ) here fault (fun _ => (· = found)) (· = found)
      (do
        let (_, e) ← Run.query fun fs here => fs.locate here (Pathname.join keys name)
        return if e.isFile then some name else none)
      fun o fs => (∀ kept, o = some kept →
        name = kept ∧ found.isFile here (Pathname.join keys kept) = true) ∧ fs = found := by
  refine Run.triple_bind (Run.triple_look _ found) fun x => Run.triple_given fun hfound => ?_
  refine Run.triple_pure fun fs hfs => ⟨fun kept hkept => ?_, hfs⟩
  cases hfile : x.2.isFile with
  | true =>
    simp only [hfile, if_true, Option.some.injEq] at hkept
    subst hkept
    refine ⟨rfl, ?_⟩
    unfold FileSystem.isFile
    rw [hfound]
    exact hfile
  | false => simp [hfile] at hkept

/-- **The names that are listed** are those of files. -/
theorem triple_fileNames (keys : ByteString) :
    Run.Triple (ρ := ρ) here fault (fun _ => (· = found)) (· = found) (fileNames keys) fun names fs =>
      (∀ name, name ∈ names → KeyName found here (some keys) name) ∧ fs = found := by
  unfold fileNames
  refine Run.triple_bind (Run.triple_look _ found) fun names => Run.triple_given fun hlist => ?_
  refine (Run.triple_filterMapM
    (fun name kept => name = kept ∧ found.isFile here (Pathname.join keys kept) = true)
    fun name _ => triple_keepFile keys name).weaken (fun _ h => h) (fun files fs h => ⟨?_, h.2⟩)
    fun _ _ h => h
  intro name hname
  obtain ⟨_, hmem, rfl, hfile⟩ := h.1 name hname
  rw [List.mem_mergeSort] at hmem
  unfold FileSystem.listDir at hlist
  cases hdir : found.locate here keys with
  | error e => simp [hdir] at hlist
  | ok x =>
    obtain ⟨l, e⟩ := x
    rw [hdir] at hlist
    cases e with
    | dir mode =>
      cases hlist
      exact ⟨keys, l, mode, rfl, hdir, hmem, hfile⟩
    | file _ _ => cases hlist
    | link _ => cases hlist
    | device => cases hlist

section Keys

variable (hK : ∀ name, K name → Ordinary name) (hfound : Private here dir P K found)

include hK hfound

/-- A file that is seen among the staged keys is a staged key. -/
theorem privateFile_of_isFile {mode : Nat} {name : ByteString} (h : Filled P K found fs)
    (hdir : found.locate here (Pathname.join dir ".ssh") = .ok (P ++ [(".ssh" : ByteString)], .dir mode))
    (hname : Ordinary name)
    (hfile : fs.isFile here (Pathname.join (Pathname.join dir ".ssh") name) = true) :
    PrivateFile fs here dir P [".ssh", name] := by
  have hprivate := h.private hK hfound
  obtain ⟨mode', hdir'⟩ := h.locate_dir hK hfound hdir
  have hfiles : ∀ e, fs.get? (P ++ [(".ssh" : ByteString)] ++ [name]) = some e →
      ∃ content, e = .file content 0o400 := fun e he => (hprivate.staged _ e (FileSystem.isBelow_iff.mpr ⟨by simp, by simp⟩) he).eq_file
  have hlink : (fs.get? (P ++ [(".ssh" : ByteString)] ++ [name])).any Entry.isLink = false := by
    cases he : fs.get? (P ++ [(".ssh" : ByteString)] ++ [name]) with
    | none => rfl
    | some e =>
      obtain ⟨content, rfl⟩ := hfiles e he
      rfl
  unfold FileSystem.isFile at hfile
  cases hat : fs.locate here (Pathname.join (Pathname.join dir ".ssh") name) with
  | error e => simp [hat] at hfile
  | ok x =>
    obtain ⟨l, e⟩ := x
    obtain ⟨-, rfl, he⟩ := (FileSystem.locate_join_iff hdir' hname hlink).mp hat
    obtain ⟨content, rfl⟩ := hfiles e he
    refine ⟨content, ?_⟩
    rw [List.append_assoc] at hat
    exact hat

theorem triple_copyKey {mode : Nat} (keys name : ByteString)
    (hdir : found.locate here (Pathname.join dir ".ssh") = .ok (P ++ [(".ssh" : ByteString)], .dir mode))
    (hname : K name) :
    Run.Triple (ρ := ρ) here fault (Abandoned fault dir P K found) (Filled P K found)
      (copyKey keys (Pathname.join dir ".ssh") name) fun _ fs =>
        PrivateFile fs here dir P [".ssh", name] ∧ Filled P K found fs := by
  unfold copyKey
  refine Run.triple_then (Run.triple_query _ fun _ _ h => .filled h) fun content => ?_
  exact triple_writePrivate [".ssh"] hK hfound hdir (hK name hname) (fun _ => .key hname) content

/-- **The keys are copied** one by one, and stay where they are. -/
theorem triple_copyKeys {mode : Nat} (keys : ByteString) (names : List ByteString)
    (hdir : found.locate here (Pathname.join dir ".ssh") = .ok (P ++ [(".ssh" : ByteString)], .dir mode))
    (hnames : ∀ name, name ∈ names → K name) :
    Run.Triple (ρ := ρ) here fault (Abandoned fault dir P K found) (Filled P K found)
      (names.forM (copyKey keys (Pathname.join dir ".ssh"))) fun _ fs =>
        (∀ name, name ∈ names → PrivateFile fs here dir P [".ssh", name]) ∧ Filled P K found fs := by
  have hstep : ∀ (done : List ByteString) (name : ByteString), name ∈ names →
      Run.Triple (ρ := ρ) here fault (Abandoned fault dir P K found)
        (fun fs => (∀ old, old ∈ done → PrivateFile fs here dir P [".ssh", old]) ∧ Filled P K found fs)
        (copyKey keys (Pathname.join dir ".ssh") name) fun _ fs =>
          (∀ old, old ∈ done ++ [name] → PrivateFile fs here dir P [".ssh", old]) ∧
            Filled P K found fs := by
    intro done name hname
    refine Run.triple_from fun fs hfs => ?_
    obtain ⟨hdone, hfs⟩ := hfs
    obtain ⟨mode', hdir'⟩ := hfs.locate_dir hK hfound hdir
    -- The copy is seen from `fs` on, where the keys that are done are.
    refine (triple_copyKey hK (hfs.private hK hfound) keys name hdir' (hnames name hname)).weaken
      (fun _ h => h ▸ .refl) (fun _ fs' h => ⟨fun old hold => ?_, hfs.trans h.2⟩) fun _ _ h => h.after hfs
    rcases List.mem_append.mp hold with hold | hold
    · exact (hdone old hold).filled hK (hfs.private hK hfound) (by simp) h.2
    · rw [List.mem_singleton.mp hold]
      exact h.1
  refine (Run.triple_forM hstep []).weaken (fun _ h => ⟨by simp, h⟩) (fun _ fs h => ?_) fun _ _ h => h
  rwa [List.nil_append] at h

end Keys

/-- What staging leaves behind: everything but the keys was staged first, and then keys, by the names
that were found. -/
def Staged (here P : Location) (sshDir : Option ByteString) (start fs : FileSystem) : Prop :=
  ∃ found, Filled P (fun _ => False) start found ∧ Filled P (KeyName found here sshDir) found fs

/-- Nothing but the keys and the files of basic authentication is there. -/
theorem Staged.private {sshDir : Option ByteString} (h : Staged here P sshDir start fs)
    (hstart : Private here dir P (fun _ => False) start) :
    ∃ found, Filled P (fun _ => False) start found ∧ Private here dir P (KeyName found here sshDir) found ∧
      (∀ name, KeyName found here sshDir name → Ordinary name) ∧
      Filled P (KeyName found here sshDir) found fs := by
  obtain ⟨found, hfirst, hkeys⟩ := h
  have hfound := hfirst.private (fun _ h => h.elim) hstart
  exact ⟨found, hfirst, hfound.mono fun _ h => h.elim, fun _ h => h.ordinary hfound.named, hkeys⟩

/-- What staging leaves behind when it fails: as much of all that as was staged. -/
def PartlyStaged (fault : ByteString → Option WriteFault) (here : Location) (dir : ByteString) (P : Location)
    (sshDir : Option ByteString) (start : FileSystem) (e : Error) (fs : FileSystem) : Prop :=
  ∃ found, Filled P (fun _ => False) start found ∧
    Abandoned fault dir P (KeyName found here sshDir) found e fs

theorem Filled.partly {sshDir : Option ByteString} {e : Error} (h : Filled P (fun _ => False) start fs) :
    PartlyStaged fault here dir P sshDir start e fs :=
  ⟨fs, h, .filled .refl⟩

/-- What was staged before the keys fails like all of it. -/
theorem Abandoned.partly {sshDir : Option ByteString} {e : Error}
    (h : Abandoned fault dir P (fun _ => False) start e fs) :
    PartlyStaged fault here dir P sshDir start e fs := by
  cases h with
  | filled h => exact h.partly
  | brokenOff h he hfault => exact ⟨_, h, .brokenOff .refl (he.mono fun _ h => h.elim) hfault⟩

theorem Staged.after {sshDir : Option ByteString} {middle : FileSystem} (h : Staged here P sshDir middle fs)
    (hmiddle : Filled P (fun _ => False) start middle) : Staged here P sshDir start fs := by
  obtain ⟨found, hfirst, hkeys⟩ := h
  exact ⟨found, hmiddle.trans hfirst, hkeys⟩

theorem PartlyStaged.after {sshDir : Option ByteString} {e : Error} {middle : FileSystem}
    (h : PartlyStaged fault here dir P sshDir middle e fs)
    (hmiddle : Filled P (fun _ => False) start middle) :
    PartlyStaged fault here dir P sshDir start e fs := by
  obtain ⟨found, hfirst, hrest⟩ := h
  exact ⟨found, hmiddle.trans hfirst, hrest⟩

theorem PrivateFile.staged {names : List ByteString} {sshDir : Option ByteString}
    (h : PrivateFile start here dir P names) (hstart : Private here dir P (fun _ => False) start)
    (hnames : names ≠ []) (hfs : Staged here P sshDir start fs) : PrivateFile fs here dir P names := by
  obtain ⟨found, hfirst, hfound, hK, hkeys⟩ := hfs.private hstart
  exact (h.filled (fun _ h => h.elim) hstart hnames hfirst).filled hK hfound hnames hkeys

/-- **Keys** are staged into the private directory, and those that the command is about are there. -/
theorem triple_stageSsh (keys : ByteString) (hstart : Private here dir P (fun _ => False) start) :
    Run.Triple (ρ := ρ) here fault (PartlyStaged fault here dir P (some keys) start)
      (Filled P (fun _ => False) start) (stageSsh keys dir) fun command fs =>
        (∀ c, command = some c → UsesKeys dir (PrivateFile fs here dir P) c) ∧
          Staged here P (some keys) start fs := by
  have hno : ∀ name, False → Ordinary name := fun _ h => h.elim
  unfold stageSsh
  dsimp only
  refine Run.triple_then (Run.triple_ask _) fun isThere => ?_
  refine Run.triple_ite (fun _ => ?_) fun _ => ?_
  · refine Run.triple_bind (Run.triple_write _ _ _) fun _ => ?_
    exact Run.triple_pure fun fs h => ⟨fun c hnone => absurd hnone (by simp), fs, h, .refl⟩
  refine Run.triple_bind (Run.triple_write _ _ _) fun _ => ?_
  have hmake : Run.Triple (ρ := ρ) here fault (PartlyStaged fault here dir P (some keys) start)
      (Filled P (fun _ => False) start) (makeKeyDir (Pathname.join dir ".ssh")) fun _ fs =>
        fs.locate here (Pathname.join dir ".ssh") = .ok (P ++ [(".ssh" : ByteString)], .dir 0o700) ∧
          Filled P (fun _ => False) start fs :=
    (triple_makeKeyDir hno hstart).weaken (fun _ h => h) (fun _ _ h => h) fun _ _ h => h.partly
  unfold makeKeyDir at hmake
  rw [← bind_assoc]
  refine Run.triple_bind hmake fun _ => Run.triple_from fun found hfound => ?_
  obtain ⟨hdir, hfound⟩ := hfound
  have hfirst := hfound.private hno hstart
  have hK : ∀ name, KeyName found here (some keys) name → Ordinary name :=
    fun _ h => h.ordinary hfirst.named
  have hprivate : Private here dir P (KeyName found here (some keys)) found :=
    hfirst.mono fun _ h => h.elim
  have hnames : Run.Triple (ρ := ρ) here fault (PartlyStaged fault here dir P (some keys) start) (· = found)
      (fileNames keys) fun names fs =>
        (∀ name, name ∈ names → KeyName found here (some keys) name) ∧ fs = found :=
    (triple_fileNames keys).weaken (fun _ h => h) (fun _ _ h => h)
      fun _ fs h => (h ▸ hfound : Filled ..).partly
  refine Run.triple_bind hnames fun names => Run.triple_given fun hkeys => ?_
  have hcopy : Run.Triple (ρ := ρ) here fault (PartlyStaged fault here dir P (some keys) start) (· = found)
      (names.forM (copyKey keys (Pathname.join dir ".ssh"))) fun _ fs =>
        (∀ name, name ∈ names → PrivateFile fs here dir P [".ssh", name]) ∧
          Filled P (KeyName found here (some keys)) found fs :=
    (triple_copyKeys hK hprivate keys names hdir hkeys).weaken (fun _ h => h ▸ .refl) (fun _ _ h => h)
      fun _ _ h => ⟨found, hfound, h⟩
  refine Run.triple_bind hcopy fun _ => ?_
  refine Run.triple_bind (Run.triple_ask _) fun hasKnownHosts => ?_
  refine Run.triple_bind (Run.triple_write _ _ _) fun _ => ?_
  refine Run.triple_pure fun fs h => ?_
  obtain ⟨hknown, hcopied, hfilled⟩ := h
  -- Each option is about a key that was copied, or about the known hosts that are seen in the end.
  have hoptions : ∀ o ∈ sshOptions names hasKnownHosts,
      Ordinary o.name ∧ PrivateFile fs here dir P [".ssh", o.name] := by
    intro o ho
    rcases List.mem_append.mp ho with ho | ho
    · obtain ⟨name, hname, rfl⟩ := List.mem_map.mp ho
      have hmem := (List.mem_filter.mp hname).1
      exact ⟨hK name (hkeys name hmem), hcopied name hmem⟩
    · cases hasKnownHosts with
      | false => cases ho
      | true =>
        rw [List.mem_singleton.mp ho]
        have hordinary : Ordinary "known_hosts" := by decide
        exact ⟨hordinary, privateFile_of_isFile hK hprivate hfilled hdir hordinary hknown⟩
  refine ⟨fun c hc => ?_, found, hfound, hfilled⟩
  cases hc
  refine ⟨_, sshCommand_eq _ _ _, fun o ho => (hoptions o ho).2, ?_⟩
  rw [sshCommand_eq]
  exact readWords_keyCommand_iff fun o ho =>
    KeyOption.point_mem_path (Pathname.not_isAbsolute_of_plain (hoptions o ho).1.plain)

/-! ## The whole -/

/-- Stages basic authentication if the source names a directory for it. -/
def stageBasic (source : CredentialSource) (dir : ByteString) : Run ρ (Option ByteString) :=
  match source.basicAuthDir with
  | some authDir => stageBasicAuth source.url authDir dir
  | none => pure none

/-- Stages keys if the source names a directory for them. -/
def stageKeys (source : CredentialSource) (dir : ByteString) : Run ρ (Option String) :=
  match source.sshDir with
  | some keys => stageSsh keys dir
  | none => pure none

/-- The environment with a configuration and a command, as far as there are any. -/
def pointing (env : GitEnvironment) (config : Option ByteString) (command : Option String) : GitEnvironment :=
  { env with gitConfig := config.or env.gitConfig, sshCommand := command.or env.sshCommand }

theorem stageInto_eq (source : CredentialSource) (dir : ByteString) :
    stageInto (ρ := ρ) source dir = (do
      let env ← stageCertificates source
      let config ← stageBasic source dir
      let command ← stageKeys source dir
      return pointing env config command) := by
  unfold stageInto stageBasic stageKeys
  refine bind_congr fun env => ?_
  cases source.basicAuthDir <;> cases source.sshDir <;>
  · refine bind_congr fun config => bind_congr fun command => ?_
    cases config <;> cases command <;> rfl

theorem triple_stageCertificates {failed : Error → FileSystem → Prop} {pre : FileSystem → Prop}
    (source : CredentialSource) :
    Run.Triple (ρ := ρ) here fault failed pre (stageCertificates source) fun env fs =>
      (env.gitConfig = none ∧ env.sshCommand = none) ∧ pre fs := by
  unfold stageCertificates
  dsimp only
  refine Run.triple_ite (fun _ => Run.triple_bind (Run.triple_write _ _ _) fun _ => ?_) fun _ => ?_ <;>
  · refine Run.triple_then (Run.triple_ask _) fun isThere => ?_
    refine Run.triple_ite (fun _ => Run.triple_bind (Run.triple_write _ _ _) fun _ => ?_) fun _ => ?_ <;>
    exact Run.triple_pure fun fs h => ⟨⟨rfl, rfl⟩, h⟩

/-- **Staging keeps to the private directory**, and an environment that it ends with points there. -/
theorem triple_stageInto (source : CredentialSource) (hstart : Private here dir P (fun _ => False) start) :
    Run.Triple (ρ := ρ) here fault (PartlyStaged fault here dir P source.sshDir start)
      (Filled P (fun _ => False) start) (stageInto source dir) fun env fs =>
        PointsTo dir (PrivateFile fs here dir P) env ∧ Staged here P source.sshDir start fs := by
  have hno : ∀ name, False → Ordinary name := fun _ h => h.elim
  rw [stageInto_eq]
  refine Run.triple_bind (triple_stageCertificates source) fun env => Run.triple_given fun henv => ?_
  have hbasic : Run.Triple (ρ := ρ) here fault (PartlyStaged fault here dir P source.sshDir start)
      (Filled P (fun _ => False) start) (stageBasic source dir) fun config fs =>
        (∀ path, config = some path → path = Pathname.join dir ".gitconfig" ∧
          PrivateFile fs here dir P [".gitconfig"]) ∧ Filled P (fun _ => False) start fs := by
    unfold stageBasic
    cases source.basicAuthDir with
    | none => exact Run.triple_pure fun fs h => ⟨fun path hnone => absurd hnone (by simp), h⟩
    | some authDir =>
      exact (triple_stageBasicAuth hno hstart source.url authDir).weaken (fun _ h => h)
        (fun _ _ h => h) fun _ _ h => h.partly
  refine Run.triple_bind hbasic fun config => Run.triple_from fun middle hmiddle => ?_
  obtain ⟨hconfig, hmiddle⟩ := hmiddle
  -- Keys are staged into what basic authentication has left, and leave its configuration there.
  have hprivate := hmiddle.private hno hstart
  have hkeys : Run.Triple (ρ := ρ) here fault (PartlyStaged fault here dir P source.sshDir start) (· = middle)
      (stageKeys source dir) fun command fs =>
        (∀ c, command = some c → UsesKeys dir (PrivateFile fs here dir P) c) ∧
          Staged here P source.sshDir middle fs := by
    unfold stageKeys
    cases source.sshDir with
    | none =>
      refine Run.triple_pure fun fs h => ⟨fun c hnone => absurd hnone (by simp), ?_⟩
      exact ⟨fs, h ▸ .refl, .refl⟩
    | some keys =>
      exact (triple_stageSsh keys hprivate).weaken (fun fs h => h ▸ .refl) (fun _ _ h => h)
        fun _ _ h => h.after hmiddle
  refine Run.triple_bind hkeys fun command => Run.triple_pure fun fs h => ?_
  obtain ⟨hcommand, hfs⟩ := h
  refine ⟨⟨fun path hpath => ?_, fun c hc => hcommand c ?_⟩, hfs.after hmiddle⟩
  · have hpath' : config = some path := by simpa [pointing, henv.1] using hpath
    exact ⟨(hconfig path hpath').1, (hconfig path hpath').2.staged hprivate (by simp) hfs⟩
  · simpa [pointing, henv.2] using hc

/-- Every location is as it was, or holds what staging may put there. -/
def Isolated (P : Location) (K : ByteString → Prop) (fs fs' : FileSystem) : Prop :=
  ∀ l, fs'.get? l = fs.get? l ∨ ∃ e, fs'.get? l = some e ∧ StagedEntry P K l e

/-- A run ended as the writing of a file for the private directory broke off, and there is now a file with
the bits of a new one among what was `kept`. -/
def BrokeOff (fault : ByteString → Option WriteFault) (dir : ByteString) (P : Location)
    (K : ByteString → Prop) (kept : FileSystem) (e : Error) (fs : FileSystem) : Prop :=
  ∃ names content written io, fault (names.foldl Pathname.join dir) = some (.after written io) ∧
    StagedEntry P K (P ++ names) (.file content 0o400) ∧ e = .io io ∧
    fs = kept.put (P ++ names) (.file content 0o644)

/-- **Credentials are isolated.** However staging into an empty directory ends, it has changed nothing
but this directory, and put only private files there by the names that it may; but if the writing of one of
them broke off, this one is left with the bits of a new file. The environment that staging ends with names
files that are there, and a shell that has merely to take the command apart reads their path names in it just
if it reads each of them as a whole. -/
theorem stageInto_isolated (source : CredentialSource) (m : Machine ρ) {mode : Nat}
    (hnamed : m.files.Named) (hdir : m.files.locate m.workDir dir = .ok (P, .dir mode))
    (hempty : m.files.below P = []) :
    let out := (stageInto source dir).exec m
    ∃ found kept, Isolated P (fun _ => False) m.files found ∧
      Isolated P (KeyName found m.workDir source.sshDir) m.files kept ∧
      (out.2.files = kept ∨ ∃ e, out.1 = .error e ∧
        BrokeOff m.writeFault dir P (KeyName found m.workDir source.sshDir) kept e out.2.files) ∧
      ∀ env, out.1 = .ok env →
        out.2.files = kept ∧ PointsTo dir (PrivateFile kept m.workDir dir P) env := by
  intro out
  have htriple : Run.Triple (ρ := ρ) m.workDir m.writeFault _ _ (stageInto source dir) _ :=
    triple_stageInto source (Private.of_empty hnamed hdir hempty)
  have hisolated : ∀ {found fs}, Filled P (fun _ => False) m.files found →
      Filled P (KeyName found m.workDir source.sshDir) found fs →
      Isolated P (fun _ => False) m.files found ∧
        Isolated P (KeyName found m.workDir source.sshDir) m.files fs :=
    fun hfirst hkeys => ⟨hfirst.get?, ((hfirst.mono fun _ h => h.elim).trans hkeys).get?⟩
  cases hx : out.1 with
  | ok env =>
    obtain ⟨-, hpoints, found, hfirst, hkeys⟩ := htriple.of_ok ⟨rfl, rfl⟩ .refl (Prod.ext hx rfl)
    obtain ⟨hfound, hend⟩ := hisolated hfirst hkeys
    refine ⟨found, _, hfound, hend, Or.inl rfl, fun env' henv => ?_⟩
    cases henv
    exact ⟨rfl, hpoints⟩
  | error e =>
    obtain ⟨-, found, hfirst, habandoned⟩ := htriple.of_error ⟨rfl, rfl⟩ .refl (Prod.ext hx rfl)
    generalize out.2.files = fs at habandoned
    cases habandoned with
    | filled hkeys =>
      obtain ⟨hfound, hend⟩ := hisolated hfirst hkeys
      exact ⟨found, _, hfound, hend, Or.inl rfl, fun env henv => by cases henv⟩
    | brokenOff hkeys hentry hfault =>
      obtain ⟨hfound, hend⟩ := hisolated hfirst hkeys
      refine ⟨found, _, hfound, hend, Or.inr ⟨_, rfl, ?_⟩, fun env henv => by cases henv⟩
      exact ⟨_, _, _, _, hfault, hentry, rfl, rfl⟩

/-- A key with a blank in its name: the command sends a program to a file that is not there. -/
theorem stageInto_isolated_of_blank :
    let source : CredentialSource := ⟨"https://git.example/x", none, some "/keys", none, true⟩
    let m : Machine Unit := { Machine.bare () with
      files := ⟨[(["work"], .dir 0o755), (["private"], .dir 0o700), (["keys"], .dir 0o755),
        (["keys", "id_a b"], .file [107] 0o644)]⟩ }
    let out := (stageInto source "/private").exec m
    m.files.Named ∧ m.files.locate m.workDir "/private" = .ok (["private"], .dir 0o700) ∧
      m.files.below ["private"] = [] ∧
      (∀ env, out.1 = .ok env →
        PointsTo "/private" (PrivateFile out.2.files m.workDir "/private" ["private"]) env) ∧
      out.1.toOption.bind GitEnvironment.sshCommand = some "ssh -i /private/.ssh/id_a b" ∧
      readWords "ssh -i /private/.ssh/id_a b" =
        some (["ssh", "-i", "/private/.ssh/id_a", "b"] : List ByteString) ∧
      out.2.files.pathExists m.workDir "/private/.ssh/id_a" = false := by
  intro source m out
  have hnamed : m.files.Named := by decide
  have hdir : m.files.locate m.workDir "/private" = .ok (["private"], .dir 0o700) := by rfl
  have hempty : m.files.below ["private"] = [] := by rfl
  obtain ⟨found, kept, -, -, -, hok⟩ := stageInto_isolated source m hnamed hdir hempty
  refine ⟨hnamed, hdir, hempty, fun env henv => ?_, by decide +kernel, by decide +kernel, by decide +kernel⟩
  obtain ⟨hkept, hpoints⟩ := hok env henv
  exact hkept ▸ hpoints

end Checkout.Credentials
