import Checkout.Proofs.Credentials.Isolation
import Checkout.Proofs.FileSystem.Growth
import Mathlib.Tactic.SplitIfs

/-!
# What the variables of git depend on

Staging looks for a CA bundle, for a directory of basic authentication and for one of keys, each at a time
of its own. What it finds is what is there when it begins: in between it writes files only, and files are
no directories.

Results:
* `triple_stageBasicAuth_found`, `triple_stageSsh_found`: the directories are found if they were there;
* `triple_stageInto_found`: the environment that staging ends with.
-/

namespace Checkout.Credentials

open FileSystem (Wrote)

variable {ρ : Type} {here : Location} {fault : ByteString → Option WriteFault} {start : FileSystem}

/-- How a run fails does not matter here. -/
abbrev Anyhow : Error → FileSystem → Prop := fun _ _ => True

/-! ## Basic authentication -/

/-- What goes on holding while files are written holds after a private file was written. -/
theorem triple_writePrivate_inv {inv : FileSystem → Prop}
    (hinv : ∀ fs fs', inv fs → Wrote fs fs' → inv fs') (path : ByteString) (content : List UInt8) :
    Run.Triple (ρ := ρ) here fault Anyhow inv (writePrivate path content) fun _ => inv := by
  have hwrite : Run.Triple (ρ := ρ) here fault Anyhow inv (Run.writeFile path content) fun _ => inv :=
    Run.triple_writeFile _ _ (fun fs fs' hfs h => hinv fs fs' hfs (FileSystem.wrote_writeBytes h))
      (fun _ _ _ => trivial) fun _ _ _ _ _ _ _ => trivial
  have hmode : Run.Triple (ρ := ρ) here fault Anyhow inv
      (Run.alter fun fs here => fs.setMode here path privateFileMode) fun _ => inv :=
    Run.triple_alter _ (fun fs fs' hfs h => hinv fs fs' hfs (FileSystem.wrote_setMode h))
      fun _ _ _ => trivial
  exact Run.triple_bind hwrite fun _ => hmode

theorem wrote_inv (start : FileSystem) : ∀ fs fs', Wrote start fs → Wrote fs fs' → Wrote start fs' :=
  fun _ _ h h' => h.trans h'

theorem triple_stageStore_wrote (authDir dir : ByteString) :
    Run.Triple (ρ := ρ) here fault Anyhow (Wrote start) (stageStore authDir dir) fun _ => Wrote start := by
  unfold stageStore
  refine Run.triple_bind (Run.triple_write _ _ _) fun _ => ?_
  refine Run.triple_then (Run.triple_query _ fun _ _ _ => trivial) fun content => ?_
  refine Run.triple_bind (triple_writePrivate_inv (wrote_inv start) _ _) fun _ => ?_
  refine Run.triple_then (Run.triple_query _ fun _ _ _ => trivial) fun text => ?_
  refine Run.triple_bind (triple_writePrivate_inv (wrote_inv start) _ _) fun _ => ?_
  refine Run.triple_bind (Run.triple_write _ _ _) fun _ => ?_
  exact Run.triple_pure fun _ h => h

theorem triple_stageUser_wrote (url : String) (authDir dir : ByteString) :
    Run.Triple (ρ := ρ) here fault Anyhow (Wrote start) (stageUser url authDir dir) fun _ => Wrote start := by
  unfold stageUser
  refine Run.triple_bind (Run.triple_write _ _ _) fun _ => ?_
  refine Run.triple_then (Run.triple_query _ fun _ _ _ => trivial) fun username => ?_
  refine Run.triple_then (Run.triple_query _ fun _ _ _ => trivial) fun password => ?_
  refine Run.triple_then (Run.triple_ofExcept _ fun _ _ _ => trivial) fun host => ?_
  refine Run.triple_bind (triple_writePrivate_inv (wrote_inv start) _ _) fun _ => ?_
  refine Run.triple_bind (triple_writePrivate_inv (wrote_inv start) _ _) fun _ => ?_
  refine Run.triple_bind (Run.triple_write _ _ _) fun _ => ?_
  exact Run.triple_pure fun _ h => h

/-- **Basic authentication is staged** if its directory is there. -/
theorem triple_stageBasicAuth_found (url : String) (authDir dir : ByteString) :
    Run.Triple (ρ := ρ) here fault Anyhow (· = start) (stageBasicAuth url authDir dir) fun config fs =>
      config.isSome = start.pathExists here authDir ∧ Wrote start fs := by
  unfold stageBasicAuth
  dsimp only
  have hask : Run.Triple (ρ := ρ) here fault Anyhow (· = start)
      (Run.ask fun fs here => fs.pathExists here authDir) fun isThere fs =>
        start.pathExists here authDir = isThere ∧ Wrote start fs :=
    (Run.triple_seen _ start).weaken (fun _ h => h) (fun _ _ h => ⟨h.1, h.2 ▸ .refl start⟩) fun _ _ h => h
  refine Run.triple_bind hask fun isThere => Run.triple_given fun hthere => ?_
  rw [hthere]
  refine Run.triple_ite (fun hnot => ?_) fun hnot => ?_
  · have hmissing : isThere = false := by simpa using hnot
    refine Run.triple_bind (Run.triple_write _ _ _) fun _ => Run.triple_pure fun fs h => ?_
    exact ⟨hmissing.symm, h⟩
  have hpresent : isThere = true := by simpa using hnot
  subst hpresent
  refine Run.triple_then (Run.triple_ask _) fun hasStore => ?_
  refine Run.triple_ite (fun _ => ?_) fun _ => ?_
  · exact Run.triple_bind (triple_stageStore_wrote _ _) fun config => Run.triple_pure fun _ h => ⟨rfl, h⟩
  refine Run.triple_then (Run.triple_ask _) fun hasUser => ?_
  refine Run.triple_ite (fun _ => ?_) fun _ => ?_
  · exact Run.triple_bind (triple_stageUser_wrote _ _ _) fun config => Run.triple_pure fun _ h => ⟨rfl, h⟩
  · exact Run.triple_throw fun _ _ => trivial

/-! ## Keys -/

theorem listDir_eq_ok {fs : FileSystem} {path : ByteString} {names : List ByteString}
    (h : fs.listDir here path = .ok names) : ∃ l mode, fs.locate here path = .ok (l, .dir mode) := by
  unfold FileSystem.listDir at h
  split at h
  · rename_i l mode hfound
    exact ⟨l, mode, hfound⟩
  · cases h
  · cases h

/-- The names of files can be read of directories only. -/
theorem triple_fileNames_isDir {inv : FileSystem → Prop} (path : ByteString) :
    Run.Triple (ρ := ρ) here fault Anyhow inv (fileNames path) fun _ fs =>
      (∃ fs', inv fs' ∧ ∃ l mode, fs'.locate here path = .ok (l, .dir mode)) ∧ inv fs := by
  unfold fileNames
  refine Run.triple_bind (Run.triple_query _ fun _ _ _ => trivial) fun names => ?_
  refine Run.triple_from fun fs hfs => ?_
  obtain ⟨hlist, hfs⟩ := hfs
  have hdir := listDir_eq_ok hlist
  refine (Run.triple_filterMapM
    (fun name kept => name = kept ∧ fs.isFile here (Pathname.join path kept) = true)
    fun name _ => triple_keepFile path name).weaken (fun _ h => h) (fun _ fs' h => ?_) fun _ _ _ => trivial
  obtain ⟨-, rfl⟩ := h
  exact ⟨⟨fs', hfs, hdir⟩, hfs⟩

/-- Whatever has been written before, a directory that is listed afterwards was there at the start. -/
theorem pathExists_of_listed {middle later : FileSystem} {keys : ByteString} {l : Location} {mode : Nat}
    (hwrote : Wrote start middle) (hkeeps : FileSystem.Keeps middle later)
    (hthere : middle.pathExists here keys = true) (hdir : later.locate here keys = .ok (l, .dir mode)) :
    start.pathExists here keys = true := by
  obtain ⟨l', e, hfound⟩ := FileSystem.pathExists_iff.mp hthere
  obtain ⟨e', hlater, hkind⟩ := hkeeps.locate hfound
  rw [hdir] at hlater
  cases hlater
  have hfile : e.isFile = false := (Entry.isFile_of_kind_eq hkind).symm
  obtain ⟨old, hold, -⟩ := hwrote.locate hfound hfile
  exact FileSystem.pathExists_iff.mpr ⟨_, old, hold⟩

/-- **Keys are staged** if their directory was there at the start, although it is looked for after basic
authentication has been staged. -/
theorem triple_stageSsh_found (keys dir : ByteString) :
    Run.Triple (ρ := ρ) here fault Anyhow (Wrote start) (stageSsh keys dir) fun command fs =>
      command.isSome = start.pathExists here keys ∧ FileSystem.Keeps start fs := by
  unfold stageSsh
  dsimp only
  refine Run.triple_from fun middle hwrote => ?_
  refine Run.triple_bind (Run.triple_seen _ middle) fun isThere => Run.triple_given fun hthere => ?_
  refine Run.triple_ite (fun hnot => ?_) fun hnot => ?_
  · have hmissing : start.pathExists here keys = false := by
      rw [← Bool.not_eq_true]
      intro hstart
      rw [hwrote.keeps.pathExists hstart] at hthere
      rw [← hthere] at hnot
      exact absurd hnot (by decide)
    refine Run.triple_bind (Run.triple_write _ _ _) fun _ => Run.triple_pure fun _ hsame => ?_
    rw [hmissing, hsame]
    exact ⟨rfl, hwrote.keeps⟩
  have hpresent : middle.pathExists here keys = true := by
    rw [hthere]
    simpa using hnot
  refine Run.triple_bind (Run.triple_write _ _ _) fun _ => ?_
  have hmake : Run.Triple (ρ := ρ) here fault Anyhow (· = middle) (Run.makeDirs (Pathname.join dir ".ssh"))
      fun _ => FileSystem.Keeps middle :=
    Run.triple_makeDirs _ (fun fs h => h ▸ FileSystem.keeps_makeDirs _ _ _) fun _ _ _ => trivial
  have hmode : Run.Triple (ρ := ρ) here fault Anyhow (FileSystem.Keeps middle)
      (Run.alter fun fs here => fs.setMode here (Pathname.join dir ".ssh") Run.privateDirMode)
      fun _ => FileSystem.Keeps middle :=
    Run.triple_alter _ (fun fs fs' hfs h => hfs.trans (FileSystem.keeps_setMode h)) fun _ _ _ => trivial
  refine Run.triple_bind hmake fun _ => Run.triple_bind hmode fun _ => ?_
  refine Run.triple_bind (triple_fileNames_isDir keys) fun names => Run.triple_given fun hlisted => ?_
  obtain ⟨later, hkeeps, l, mode, hdir⟩ := hlisted
  have hstart : start.pathExists here keys = true := pathExists_of_listed hwrote hkeeps hpresent hdir
  have hcopy : ∀ (done : List ByteString) (name : ByteString), name ∈ names →
      Run.Triple (ρ := ρ) here fault Anyhow (FileSystem.Keeps middle)
        (copyKey keys (Pathname.join dir ".ssh") name) fun _ => FileSystem.Keeps middle := by
    intro _ name _
    unfold copyKey
    refine Run.triple_then (Run.triple_query _ fun _ _ _ => trivial) fun content => ?_
    exact triple_writePrivate_inv (fun _ _ hfs h => hfs.trans h.keeps) _ _
  have hcopies : Run.Triple (ρ := ρ) here fault Anyhow (FileSystem.Keeps middle)
      (names.forM (copyKey keys (Pathname.join dir ".ssh"))) fun _ => FileSystem.Keeps middle :=
    Run.triple_forM hcopy []
  refine Run.triple_bind hcopies fun _ => ?_
  refine Run.triple_then (Run.triple_ask _) fun hasKnownHosts => ?_
  refine Run.triple_bind (Run.triple_write _ _ _) fun _ => Run.triple_pure fun _ hfs => ?_
  rw [hstart]
  exact ⟨rfl, hwrote.keeps.trans hfs⟩

/-! ## The whole -/

/-- What staging finds of a source in the files that it begins with. -/
structure Found (source : CredentialSource) (here : Location) (fs : FileSystem) (env : GitEnvironment) :
    Prop where
  sslVerify : env.sslVerify = source.sslVerify
  caBundle : env.caBundle =
    if fs.pathExists here (Defaults.caBundle source.caBundle) then some (Defaults.caBundle source.caBundle)
    else none
  gitConfig : env.gitConfig.isSome = source.basicAuthDir.any fun dir => fs.pathExists here dir
  sshCommand : env.sshCommand.isSome = source.sshDir.any fun dir => fs.pathExists here dir

/-- The environment that only certificates have been staged for. -/
def certified (source : CredentialSource) (here : Location) (fs : FileSystem) : GitEnvironment where
  sslVerify := source.sslVerify
  caBundle :=
    if fs.pathExists here (Defaults.caBundle source.caBundle) then some (Defaults.caBundle source.caBundle)
    else none
  gitConfig := none
  sshCommand := none

/-- Looks for the bundle of a source, for an environment that has none. -/
def stageBundle (source : CredentialSource) (env : GitEnvironment) : Run ρ GitEnvironment := do
  if ← Run.ask fun fs here => fs.pathExists here (Defaults.caBundle source.caBundle) then
    write .info .credentials s!"Using mounted CA bundle: {Defaults.caBundle source.caBundle}"
    return env.withCaBundle (Defaults.caBundle source.caBundle)
  return env

theorem stageCertificates_eq (source : CredentialSource) :
    stageCertificates (ρ := ρ) source = (do
      if !source.sslVerify then
        write .info .credentials "Disabling SSL verification (GIT_SSL_NO_VERIFY=true)"
      stageBundle source ⟨source.sslVerify, none, none, none⟩) := by
  unfold stageCertificates stageBundle
  cases source.sslVerify <;> rfl

theorem triple_stageCertificates_eq (source : CredentialSource) :
    Run.Triple (ρ := ρ) here fault Anyhow (· = start) (stageCertificates source) fun env fs =>
      env = certified source here start ∧ fs = start := by
  have hbundle : Run.Triple (ρ := ρ) here fault Anyhow (· = start)
      (stageBundle source ⟨source.sslVerify, none, none, none⟩) fun env fs =>
        env = certified source here start ∧ fs = start := by
    unfold stageBundle certified
    refine Run.triple_bind (Run.triple_seen _ start) fun isThere => Run.triple_given fun hthere => ?_
    rw [hthere]
    refine Run.triple_ite (fun hyes => ?_) fun hno => ?_
    · rw [if_pos hyes]
      exact Run.triple_bind (Run.triple_write _ _ _) fun _ => Run.triple_pure fun _ h => ⟨rfl, h⟩
    · rw [if_neg hno]
      exact Run.triple_pure fun _ h => ⟨rfl, h⟩
  rw [stageCertificates_eq]
  refine Run.triple_ite (fun _ => ?_) fun _ => hbundle
  exact Run.triple_bind (Run.triple_write _ _ _) fun _ => hbundle

/-- **The environment that staging ends with** is settled by what is there when it begins, and all of that
is still there in the end. -/
theorem triple_stageInto_found (source : CredentialSource) (dir : ByteString) :
    Run.Triple (ρ := ρ) here fault Anyhow (· = start) (stageInto source dir) fun env fs =>
      Found source here start env ∧ FileSystem.Keeps start fs := by
  rw [stageInto_eq]
  refine Run.triple_bind (triple_stageCertificates_eq source) fun env => Run.triple_given fun henv => ?_
  subst henv
  have hbasic : Run.Triple (ρ := ρ) here fault Anyhow (· = start) (stageBasic source dir) fun config fs =>
      (config.isSome = source.basicAuthDir.any fun dir => start.pathExists here dir) ∧
        Wrote start fs := by
    unfold stageBasic
    cases source.basicAuthDir with
    | none => exact Run.triple_pure fun fs h => ⟨rfl, h ▸ .refl start⟩
    | some authDir => exact triple_stageBasicAuth_found source.url authDir dir
  refine Run.triple_bind hbasic fun config => Run.triple_given fun hconfig => ?_
  have hkeys : Run.Triple (ρ := ρ) here fault Anyhow (Wrote start) (stageKeys source dir)
      fun command fs =>
        (command.isSome = source.sshDir.any fun dir => start.pathExists here dir) ∧ FileSystem.Keeps start fs := by
    unfold stageKeys
    cases source.sshDir with
    | none => exact Run.triple_pure fun _ hfs => ⟨rfl, hfs.keeps⟩
    | some keys => exact triple_stageSsh_found keys dir
  refine Run.triple_bind hkeys fun command => Run.triple_given fun hcommand => Run.triple_pure fun fs hfs => ?_
  have hnone : ∀ {α : Type} (o : Option α), o.or none = o := fun o => by cases o <;> rfl
  refine ⟨⟨rfl, rfl, ?_, ?_⟩, hfs⟩
  · rw [← hconfig]
    exact congrArg Option.isSome (hnone config)
  · rw [← hcommand]
    exact congrArg Option.isSome (hnone command)

/-! ## Variables -/

/-- The variables of git, each of them for a reason in the source and in the files that staging begins
with. -/
structure Variables (source : CredentialSource) (here : Location) (fs : FileSystem)
    (vars : List (String × ByteString)) : Prop where
  prompt : vars.head? = some ("GIT_TERMINAL_PROMPT", ("0" : ByteString))
  /-- They come in this order, -/
  ordered : (vars.map Prod.fst).Sublist ["GIT_TERMINAL_PROMPT", "GIT_SSL_NO_VERIFY", "GIT_SSL_CAINFO",
    "GIT_CONFIG_GLOBAL", "GIT_SSH_COMMAND"]
  /-- and each at most once. -/
  once : (vars.map Prod.fst).Nodup
  noVerify : ∀ value, ("GIT_SSL_NO_VERIFY", value) ∈ vars ↔ value = "true" ∧ source.sslVerify = false
  caInfo : ∀ value, ("GIT_SSL_CAINFO", value) ∈ vars ↔
    value = Defaults.caBundle source.caBundle ∧ fs.pathExists here value = true
  config : (∃ value, ("GIT_CONFIG_GLOBAL", value) ∈ vars) ↔
    ∃ dir, source.basicAuthDir = some dir ∧ fs.pathExists here dir = true
  command : (∃ value, ("GIT_SSH_COMMAND", value) ∈ vars) ↔
    ∃ dir, source.sshDir = some dir ∧ fs.pathExists here dir = true

/-- The names of the variables, whatever the environment. -/
theorem vars_names (env : GitEnvironment) :
    (env.vars.map Prod.fst).Sublist ["GIT_TERMINAL_PROMPT", "GIT_SSL_NO_VERIFY", "GIT_SSL_CAINFO",
      "GIT_CONFIG_GLOBAL", "GIT_SSH_COMMAND"] := by
  obtain ⟨sslVerify, caBundle, gitConfig, sshCommand⟩ := env
  cases sslVerify <;> cases caBundle <;> cases gitConfig <;> cases sshCommand <;>
    simp [GitEnvironment.vars]

theorem any_eq_true_iff {o : Option ByteString} {p : ByteString → Bool} :
    o.any p = true ↔ ∃ dir, o = some dir ∧ p dir = true := by
  cases o <;> simp

theorem Found.variables {source : CredentialSource} {fs : FileSystem} {env : GitEnvironment}
    (h : Found source here fs env) : Variables source here fs env.vars := by
  have hnodup : ["GIT_TERMINAL_PROMPT", "GIT_SSL_NO_VERIFY", "GIT_SSL_CAINFO", "GIT_CONFIG_GLOBAL",
    "GIT_SSH_COMMAND"].Nodup := by decide
  refine ⟨?_, vars_names env, (vars_names env).nodup hnodup, fun value => ?_, fun value => ?_, ?_, ?_⟩
  · rfl
  · rw [← h.sslVerify]
    cases hverify : env.sslVerify <;> simp [GitEnvironment.vars, hverify]
  · have hmem : ("GIT_SSL_CAINFO", value) ∈ env.vars ↔ env.caBundle = some value := by
      simp [GitEnvironment.vars]
    rw [hmem, h.caBundle]
    split_ifs with hthere
    · constructor
      · rintro ⟨⟩
        exact ⟨rfl, hthere⟩
      · rintro ⟨rfl, -⟩
        rfl
    · constructor
      · rintro ⟨⟩
      · rintro ⟨rfl, hvalue⟩
        exact absurd hvalue hthere
  · have hmem : (∃ value, ("GIT_CONFIG_GLOBAL", value) ∈ env.vars) ↔ env.gitConfig.isSome = true := by
      simp [GitEnvironment.vars, Option.isSome_iff_exists]
    rw [hmem, h.gitConfig, any_eq_true_iff]
  · have hmem : (∃ value, ("GIT_SSH_COMMAND", value) ∈ env.vars) ↔ env.sshCommand.isSome = true := by
      simp [GitEnvironment.vars, Option.isSome_iff_exists]
    rw [hmem, h.sshCommand, any_eq_true_iff]

end Checkout.Credentials
