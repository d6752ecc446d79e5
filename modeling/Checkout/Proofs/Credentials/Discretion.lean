import Checkout.Proofs.Clone.Lockstep
import Checkout.Proofs.Credentials.Isolation
import Checkout.Proofs.FileSystem.Outline

/-!
# Staging is discreet

Staging reads secrets, rewrites them and copies them, but where it goes and what it says depends on the
outline of the files only. The one exception is text: a file that is read as text has to be text, or
staging fails. So staging agrees on machines that only the contents of files tell apart, as long as the
files that are read as text are text on both. The same writes break off on them.

The configuration of a credential store is read when the store has been copied already. It is found as it
was before, since it was there and the private directory was empty.

Results:
* `SameOutline.query`, `SameOutline.alter`: reading and writing files agrees up to contents;
* `agreeAt_stageInto`: staging agrees.
-/

namespace Checkout

open FileSystem (Alike)

variable {ρ α β γ : Type}

/-! ## Machines that only the contents of files tell apart -/

/-- Machines that only the contents of files tell apart. -/
structure SameOutline (m n : Machine ρ) : Prop where
  files : Alike m.files n.files
  workDir : m.workDir = n.workDir
  scratch : m.scratch = n.scratch
  writeFault : m.writeFault = n.writeFault
  log : m.log = n.log
  pauses : m.pauses = n.pauses
  repo : m.repo = n.repo

namespace SameOutline

variable {m n : Machine ρ} {fs fs' : FileSystem}

theorem withFiles (h : SameOutline m n) (hfiles : Alike fs fs') :
    SameOutline { m with files := fs } { n with files := fs' } :=
  { h with files := hfiles }

theorem patient : Patient (SameOutline : Machine ρ → Machine ρ → Prop) where
  noting := fun h records => { h with log := congrArg (· ++ records) h.log }
  resting := fun h d => { h with pauses := congrArg (· ++ [d]) h.pauses }

/-- What outlines tell is the same. -/
theorem ask {f : FileSystem → Location → α} (hf : ∀ {fs fs'} here, Alike fs fs' → f fs here = f fs' here) :
    Agree (SameOutline : Machine ρ → Machine ρ → Prop) Eq (Run.ask f) (Run.ask f) := by
  intro m n h
  rw [Run.exec_ask, Run.exec_ask, h.workDir, hf _ h.files]
  exact ⟨.ok rfl, h⟩

/-- What is read has something in common. -/
theorem alikeOutcome_of_map_eq {x y : Except IoError α} {g : α → β} (h : x.map g = y.map g) :
    AlikeOutcome (fun a b => g a = g b) (x.mapError .io) (y.mapError .io) := by
  cases x with
  | error e =>
    cases y with
    | error e' =>
      cases h
      exact .error _
    | ok b => cases h
  | ok a =>
    cases y with
    | error e' => cases h
    | ok b => exact .ok (Except.ok.inj h)

theorem query {f : FileSystem → Location → Except IoError α} {g : α → β}
    (hf : ∀ {fs fs'} here, Alike fs fs' → (f fs here).map g = (f fs' here).map g) :
    Agree (SameOutline : Machine ρ → Machine ρ → Prop) (fun a b => g a = g b) (Run.query f)
      (Run.query f) := by
  intro m n h
  have hsame : (f m.files m.workDir).map g = (f n.files n.workDir).map g := by
    rw [h.workDir]
    exact hf n.workDir h.files
  exact ⟨alikeOutcome_of_map_eq hsame, h⟩

/-- Changes that lead to the same outlines agree, whatever contents they write. -/
theorem alter {f f' : FileSystem → Location → Except IoError FileSystem}
    (hf : ∀ {fs fs'} here, Alike fs fs' →
      (f fs here).map FileSystem.outline = (f' fs' here).map FileSystem.outline) :
    Agree (SameOutline : Machine ρ → Machine ρ → Prop) Eq (Run.alter f) (Run.alter f') := by
  intro m n h
  have hsame : (f m.files m.workDir).map FileSystem.outline =
      (f' n.files n.workDir).map FileSystem.outline := by
    rw [h.workDir]
    exact hf n.workDir h.files
  rw [Run.exec_alter, Run.exec_alter]
  cases hm : f m.files m.workDir with
  | error e =>
    rw [hm] at hsame
    cases hn : f' n.files n.workDir with
    | error e' =>
      rw [hn] at hsame
      cases hsame
      exact ⟨.error _, h⟩
    | ok made =>
      rw [hn] at hsame
      cases hsame
  | ok made =>
    rw [hm] at hsame
    cases hn : f' n.files n.workDir with
    | error e' =>
      rw [hn] at hsame
      cases hsame
    | ok made' =>
      rw [hn] at hsame
      exact ⟨.ok rfl, h.withFiles (Except.ok.inj hsame)⟩

theorem writeFile (path : ByteString) (content content' : List UInt8) :
    Agree (SameOutline : Machine ρ → Machine ρ → Prop) Eq (Run.writeFile path content)
      (Run.writeFile path content') := by
  have halter : ∀ bytes bytes', Agree (SameOutline : Machine ρ → Machine ρ → Prop) Eq
      (Run.alter fun fs here => fs.writeBytes here path bytes)
      (Run.alter fun fs here => fs.writeBytes here path bytes') :=
    fun bytes bytes' => alter fun here h => h.writeBytes here path bytes bytes'
  intro m n h
  unfold Run.writeFile
  rw [Run.exec_bind_ok (Run.exec_get m), Run.exec_bind_ok (Run.exec_get n), h.writeFault]
  cases n.writeFault path with
  | none => exact halter content content' m n h
  | some fault =>
    cases fault with
    | unopened e => exact agree_throw _ m n h
    | after written e => exact agree_then (halter _ _) (fun _ => agree_throw _) m n h

theorem makeDirs (path : ByteString) :
    Agree (SameOutline : Machine ρ → Machine ρ → Prop) Eq (Run.makeDirs path) (Run.makeDirs path) := by
  intro m n h
  have hsame : Alike (m.files.makeDirs m.workDir path).1 (n.files.makeDirs n.workDir path).1 ∧
      (m.files.makeDirs m.workDir path).2 = (n.files.makeDirs n.workDir path).2 := by
    rw [h.workDir]
    exact h.files.makeDirs n.workDir path
  rw [Run.exec_makeDirs, Run.exec_makeDirs, hsame.2]
  exact ⟨alikeOutcome_refl _, h.withFiles hsame.1⟩

end SameOutline

namespace Credentials

open FileSystem (Ordinary)

/-! ## Keys -/

theorem writePrivate_discreet (path : ByteString) (content content' : List UInt8) :
    Agree (SameOutline : Machine ρ → Machine ρ → Prop) Eq (writePrivate path content)
      (writePrivate path content') := by
  unfold writePrivate
  refine agree_then (SameOutline.writeFile path content content') fun _ => ?_
  exact SameOutline.alter fun here h => h.setMode here path privateFileMode

theorem fileNames_discreet (dir : ByteString) :
    Agree (SameOutline : Machine ρ → Machine ρ → Prop) Eq (fileNames dir) (fileNames dir) := by
  unfold fileNames
  refine agree_bind (SameOutline.query (g := id) fun here h => by rw [h.listDir_eq]) fun names names' h => ?_
  cases h
  refine agree_filterMapM (fun name => ?_) _
  refine agree_bind (SameOutline.query fun here h => h.map_locate here _) fun (_, e) (_, e') hfound => ?_
  have hfile : e.isFile = e'.isFile := Entry.isFile_eq_of_outline_eq (Prod.mk.inj hfound).2
  dsimp only
  rw [hfile]
  exact agree_pure rfl

theorem copyKey_discreet (dir destination name : ByteString) :
    Agree (SameOutline : Machine ρ → Machine ρ → Prop) Eq (copyKey dir destination name)
      (copyKey dir destination name) :=
  agree_bind (SameOutline.query fun here h => h.readBytes here _) fun _ _ _ => writePrivate_discreet _ _ _

theorem stageSsh_discreet (sshDir privateDir : ByteString) :
    Agree (SameOutline : Machine ρ → Machine ρ → Prop) Eq (stageSsh sshDir privateDir)
      (stageSsh sshDir privateDir) := by
  have hwrite := (SameOutline.patient (ρ := ρ)).write
  unfold stageSsh
  dsimp only
  refine agree_then (SameOutline.ask fun here h => h.pathExists_eq here _) fun isThere => ?_
  refine agree_ite (fun _ => ?_) fun _ => ?_
  · exact agree_then (hwrite _ _ _) fun _ => agree_pure rfl
  refine agree_then (hwrite _ _ _) fun _ => ?_
  refine agree_then (SameOutline.makeDirs _) fun _ => ?_
  refine agree_then (SameOutline.alter fun here h => h.setMode here _ _) fun _ => ?_
  refine agree_then (fileNames_discreet _) fun names => ?_
  refine agree_then (agree_forM fun name _ => copyKey_discreet _ _ name) fun _ => ?_
  refine agree_then (SameOutline.ask fun here h => h.isFile_eq here _) fun hasKnownHosts => ?_
  refine agree_then (hwrite _ _ _) fun _ => ?_
  exact agree_pure rfl

/-! ## Text -/

/-- The files of a directory that staging reads as text are text, as far as they can be read. -/
def HasText (fs : FileSystem) (here : Location) (authDir : ByteString) : Prop :=
  ∀ name ∈ ([".gitconfig", "username", "password"] : List ByteString),
    fs.readText here (Pathname.join authDir name) ≠ .error .notText

/-- Machines with files that are known, which only contents tell apart. -/
structure Known (here : Location) (start start' : FileSystem) (m n : Machine ρ) : Prop where
  same : SameOutline m n
  workDir : m.workDir = here
  left : m.files = start
  right : n.files = start'

section Known

variable {here : Location} {start start' : FileSystem} {m n : Machine ρ}

theorem Known.workDir' (h : Known here start start' m n) : n.workDir = here :=
  h.same.workDir.symm.trans h.workDir

theorem patient_known :
    Patient (Known here start start' : Machine ρ → Machine ρ → Prop) where
  noting := fun h records => { h with same := SameOutline.patient.noting h.same records }
  resting := fun h d => { h with same := SameOutline.patient.resting h.same d }

theorem Known.write (h : Known here start start' m n) (level : Level) (part : Part) (message : String) :
    AgreeAt (Known here start start') Eq (write level part message) (write level part message) m n :=
  patient_known.write level part message m n h

/-- What the files answer is known, and the same. -/
theorem Known.ask {f : FileSystem → Location → α} (hf : f start here = f start' here)
    (h : Known here start start' m n) :
    AgreeAt (Known here start start') (fun a b => f start here = a ∧ a = b) (Run.ask f) (Run.ask f) m n := by
  unfold AgreeAt
  rw [Run.exec_ask, Run.exec_ask, h.left, h.workDir, h.right, h.workDir']
  exact ⟨.ok ⟨rfl, hf⟩, h⟩

theorem Known.query {f : FileSystem → Location → Except IoError α} {g : α → β}
    (hf : (f start here).map g = (f start' here).map g) (h : Known here start start' m n) :
    AgreeAt (Known here start start') (fun a b => g a = g b) (Run.query f) (Run.query f) m n := by
  rw [← h.left, ← h.right, ← h.workDir] at hf
  have hsame : (f m.files m.workDir).map g = (f n.files n.workDir).map g := by
    rw [← h.same.workDir]
    exact hf
  exact ⟨SameOutline.alikeOutcome_of_map_eq hsame, h⟩

end Known

/-! ## Basic authentication -/

section Basic

variable {here P : Location} {dir authDir : ByteString} {url : String} {start start' fs : FileSystem}
  {m n : Machine ρ}

/-- A file that was there before anything was staged is found as it was. -/
theorem Filled.readText_eq {path : ByteString} (hstart : Private here dir P (fun _ => False) start)
    (hempty : start.below P = []) (hfile : start.isFile here path = true)
    (h : Filled P (fun _ => False) start fs) : fs.readText here path = start.readText here path := by
  unfold FileSystem.isFile at hfile
  cases hfound : start.locate here path with
  | error e => simp [hfound] at hfile
  | ok x =>
    obtain ⟨l, e⟩ := x
    have hsame : fs.get? l = start.get? l := by
      rcases h.get? l with hsame | ⟨staged, -, hstaged⟩
      · exact hsame
      · have hentry := (FileSystem.locate_eq_ok_iff.mp hfound).2.1
        rw [FileSystem.get?_eq_none_of_below hempty hstaged.isBelow] at hentry
        cases hentry
    unfold FileSystem.readText FileSystem.readBytes
    rw [hfound, (h.keeps (fun _ h => h.elim) hstart).locate_eq hfound hsame]

/-- Writing the credentials is a step of staging. -/
theorem filled_writeBasic {m' : Machine ρ} {content : List UInt8}
    (hstart : Private here dir P (fun _ => False) start) (hhere : m.workDir = here) (hm : m.files = start)
    (h : (writePrivate (Pathname.join dir ".git-credentials") content).exec m = (.ok (), m')) :
    m'.workDir = here ∧ Filled P (fun _ => False) start m'.files := by
  have hwrite : Run.Triple (ρ := ρ) here m.writeFault _ _ (writePrivate _ content) _ :=
    triple_writeBasic (fun _ h => h.elim) hstart (Or.inl rfl) content
  obtain ⟨hstands, -, hfilled⟩ := hwrite.of_ok ⟨hhere, rfl⟩ (hm ▸ .refl) h
  exact ⟨hstands.1, hfilled⟩

variable (hsame : Alike start start') (htext : HasText start here authDir)
  (htext' : HasText start' here authDir)

include hsame htext htext'

theorem agreeAt_stageUser (h : Known here start start' m n) :
    AgreeAt SameOutline Eq (stageUser url authDir dir) (stageUser url authDir dir) m n := by
  have hread : ∀ name ∈ (["username", "password"] : List ByteString),
      (start.readText here (Pathname.join authDir name)).map (fun _ => ()) =
        (start'.readText here (Pathname.join authDir name)).map fun _ => () := fun name hname =>
    hsame.readText (htext name (List.mem_cons_of_mem _ hname)) (htext' name (List.mem_cons_of_mem _ hname))
  have hforget : ∀ m n : Machine ρ, Known here start start' m n → SameOutline m n := fun _ _ h => h.same
  unfold stageUser
  refine (h.write _ _ _).bind_at (fun _ _ m n _ h => ?_) hforget
  refine (h.query (hread _ (by simp))).bind_at (fun username username' m n _ h => ?_) hforget
  refine (h.query (hread _ (by simp))).bind_at (fun password password' m n _ h => ?_) hforget
  refine agree_then (agree_ofExcept _) (fun host => ?_) m n h.same
  refine agree_then (writePrivate_discreet _ _ _) fun _ => ?_
  refine agree_then (writePrivate_discreet _ _ _) fun _ => ?_
  refine agree_then (SameOutline.patient.write _ _ _) fun _ => ?_
  exact agree_pure rfl

variable (hstart : Private here dir P (fun _ => False) start) (hempty : start.below P = [])
  (hstart' : Private here dir P (fun _ => False) start') (hempty' : start'.below P = [])

include hstart hempty hstart' hempty'

theorem agreeAt_stageStore (hfile : start.isFile here (Pathname.join authDir ".gitconfig") = true)
    (h : Known here start start' m n) :
    AgreeAt SameOutline Eq (stageStore authDir dir) (stageStore authDir dir) m n := by
  have hforget : ∀ m n : Machine ρ, Known here start start' m n → SameOutline m n := fun _ _ h => h.same
  have hfile' : start'.isFile here (Pathname.join authDir ".gitconfig") = true := by
    rw [← hsame.isFile_eq]
    exact hfile
  unfold stageStore
  dsimp only
  refine (h.write _ _ _).bind_at (fun _ _ m n _ h => ?_) hforget
  refine (h.query (hsame.readBytes here _)).bind_at (fun content content' m n _ h => ?_) hforget
  have hwritten := writePrivate_discreet (Pathname.join dir ".git-credentials") content content' m n h.same
  refine AgreeAt.bind_ok hwritten fun _ _ m₁ n₁ hx hy hmn => ?_
  -- What was written is known up to its content, so the configuration is still the one that is known.
  obtain ⟨hwork, hleft⟩ := filled_writeBasic hstart h.workDir h.left hx
  obtain ⟨-, hright⟩ := filled_writeBasic hstart' h.workDir' h.right hy
  have hmem : (".gitconfig" : ByteString) ∈ ([".gitconfig", "username", "password"] : List ByteString) :=
    List.mem_cons_self
  have hread : (m₁.files.readText m₁.workDir (Pathname.join authDir ".gitconfig")).map (fun _ => ()) =
      (n₁.files.readText n₁.workDir (Pathname.join authDir ".gitconfig")).map fun _ => () := by
    rw [← hmn.workDir, hwork]
    refine hmn.files.readText ?_ ?_
    · rw [hleft.readText_eq hstart hempty hfile]
      exact htext _ hmem
    · rw [hright.readText_eq hstart' hempty' hfile']
      exact htext' _ hmem
  refine AgreeAt.bind ⟨SameOutline.alikeOutcome_of_map_eq hread, hmn⟩ fun text text' _ => ?_
  refine agree_then (writePrivate_discreet _ _ _) fun _ => ?_
  refine agree_then (SameOutline.patient.write _ _ _) fun _ => ?_
  exact agree_pure rfl

/-- **Basic authentication** is staged alike. -/
theorem agreeAt_stageBasicAuth (h : Known here start start' m n) :
    AgreeAt SameOutline Eq (stageBasicAuth url authDir dir) (stageBasicAuth url authDir dir) m n := by
  have hforget : ∀ m n : Machine ρ, Known here start start' m n → SameOutline m n := fun _ _ h => h.same
  unfold stageBasicAuth
  dsimp only
  refine (h.ask (hsame.pathExists_eq here _)).bind_at (fun isThere _ m n hthere h => ?_) hforget
  obtain ⟨-, rfl⟩ := hthere
  by_cases hthere : (!isThere) = true
  · rw [if_pos hthere]
    exact agree_then (SameOutline.patient.write _ _ _) (fun _ => agree_pure rfl) m n h.same
  rw [if_neg hthere]
  have hboth : ∀ a b, (start.isFile here (Pathname.join authDir a) &&
      start.isFile here (Pathname.join authDir b)) = (start'.isFile here (Pathname.join authDir a) &&
        start'.isFile here (Pathname.join authDir b)) := fun a b => by
    rw [hsame.isFile_eq, hsame.isFile_eq]
  refine (h.ask (hboth _ _)).bind_at (fun hasStore _ m n hstore h => ?_) hforget
  obtain ⟨hstore, rfl⟩ := hstore
  by_cases hc : hasStore = true
  · rw [if_pos hc]
    rw [hc, Bool.and_eq_true] at hstore
    exact (agreeAt_stageStore hsame htext htext' hstart hempty hstart' hempty' hstore.2 h).bind
      fun _ _ hpath => hpath ▸ agree_pure rfl
  rw [if_neg hc]
  refine (h.ask (hboth _ _)).bind_at (fun hasUser _ m n huser h => ?_) hforget
  obtain ⟨-, rfl⟩ := huser
  by_cases hc : hasUser = true
  · rw [if_pos hc]
    exact (agreeAt_stageUser hsame htext htext' h).bind fun _ _ hpath => hpath ▸ agree_pure rfl
  · rw [if_neg hc]
    exact agree_throw _ m n h.same

end Basic

/-! ## The whole -/

/-- Staging certificates leaves the files alone and says what they answer. -/
theorem stageCertificates_discreet {here : Location} {start start' : FileSystem} (hsame : Alike start start')
    (source : CredentialSource) :
    Agree (Known here start start' : Machine ρ → Machine ρ → Prop) Eq (stageCertificates source)
      (stageCertificates source) := by
  have hwrite : ∀ level part message, Agree (Known here start start' : Machine ρ → Machine ρ → Prop) Eq
      (write level part message) (write level part message) := patient_known.write
  have hask : Agree (Known here start start' : Machine ρ → Machine ρ → Prop) Eq
      (Run.ask fun fs here => fs.pathExists here (Defaults.caBundle source.caBundle))
      (Run.ask fun fs here => fs.pathExists here (Defaults.caBundle source.caBundle)) := by
    intro m n h
    obtain ⟨hout, hknown⟩ := h.ask (f := fun fs here => fs.pathExists here (Defaults.caBundle source.caBundle))
      (hsame.pathExists_eq here _)
    refine ⟨?_, hknown⟩
    rw [Run.exec_ask, Run.exec_ask] at hout ⊢
    cases hout with
    | ok hab => exact .ok hab.2
  unfold stageCertificates
  dsimp only
  refine agree_ite (fun _ => agree_then (hwrite _ _ _) fun _ => ?_) fun _ => ?_ <;>
  · refine agree_then hask fun isThere => ?_
    exact agree_ite (fun _ => agree_then (hwrite _ _ _) fun _ => agree_pure rfl) fun _ => agree_pure rfl

/-- **Staging is discreet**: on machines that only the contents of files tell apart it comes to the same
environment and the same log, or fails in the same way, if what it reads as text is text on both. -/
theorem agreeAt_stageInto {here P : Location} {dir : ByteString} {m n : Machine ρ} (source : CredentialSource)
    (h : SameOutline m n) (hhere : m.workDir = here)
    (htext : ∀ authDir, source.basicAuthDir = some authDir →
      HasText m.files here authDir ∧ HasText n.files here authDir)
    (hstart : Private here dir P (fun _ => False) m.files) (hempty : m.files.below P = [])
    (hstart' : Private here dir P (fun _ => False) n.files) (hempty' : n.files.below P = []) :
    AgreeAt SameOutline Eq (stageInto source dir) (stageInto source dir) m n := by
  have hknown : Known here m.files n.files m n := ⟨h, hhere, rfl, rfl⟩
  have hkeys : Agree (SameOutline : Machine ρ → Machine ρ → Prop) Eq (stageKeys source dir)
      (stageKeys source dir) := by
    unfold stageKeys
    cases source.sshDir with
    | none => exact agree_pure rfl
    | some keys => exact stageSsh_discreet keys dir
  rw [stageInto_eq]
  refine AgreeAt.bind_at (stageCertificates_discreet h.files source m n hknown)
    (fun env _ m₁ n₁ henv h₁ => ?_) fun _ _ h => h.same
  cases henv
  have hbasic : AgreeAt SameOutline Eq (stageBasic source dir) (stageBasic source dir) m₁ n₁ := by
    unfold stageBasic
    cases hdir : source.basicAuthDir with
    | none => exact agree_pure rfl m₁ n₁ h₁.same
    | some authDir =>
      obtain ⟨hleft, hright⟩ := htext authDir hdir
      exact agreeAt_stageBasicAuth h.files hleft hright hstart hempty hstart' hempty' h₁
  refine hbasic.bind fun config _ hconfig => ?_
  cases hconfig
  exact agree_then hkeys fun command => agree_pure rfl

end Credentials

end Checkout
