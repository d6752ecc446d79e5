import Checkout.Proofs.Clone.Room
import Checkout.Proofs.Clone.SetUp
import Checkout.Proofs.Credentials.Isolation
import Checkout.Proofs.FileSystem.Aside

/-!
# The ground that a run works on

Before git is called, a run fills its private directory, and clears and makes the directory of the checkout.
Apart from the private directory the files are then what the clearing and the making have left of them: this
is the ground that git works on. The private directory stands beside it, and nobody has to do with it as long
as its name is new.

Results:
* `Kept.present`: what was staged is found, whatever was done beside it;
* `kept_staged`: what staging leaves;
* `beside_prepared`: what setting up leaves.
-/

namespace Checkout

open Clone
open FileSystem (Beside Sheltered absolutePath)

variable {ρ : Type} {m n : Machine ρ} {r : CloneRequest} {env : GitEnvironment} {S bare fs : FileSystem}
  {P here : Location}

/-! ## The private directory after staging -/

/-- The private directory is there, with the files that an environment names. -/
structure Present (P here : Location) (env : GitEnvironment) (fs : FileSystem) : Prop where
  dir : fs.locate here (absolutePath P) = .ok (P, .dir Run.privateDirMode)
  files : Credentials.PointsTo (absolutePath P) (Credentials.PrivateFile fs here (absolutePath P) P) env

theorem Credentials.PointsTo.imp {dir : ByteString} {present present' : List ByteString → Prop}
    (h : PointsTo dir present env) (himp : ∀ names, present names → present' names) :
    PointsTo dir present' env where
  config := fun path hpath => (h.config path hpath).imp_right (himp _)
  command := fun command hcommand => by
    obtain ⟨options, hoptions, hall, hread⟩ := h.command command hcommand
    exact ⟨options, hoptions, fun o ho => himp _ (hall o ho), hread⟩

/-- What staging has left in the private directory. -/
structure Kept (P : Location) (kept : FileSystem) : Prop where
  named : kept.Named
  dirs : ∀ k < P.length, (kept.get? (P.take k)).any Entry.isDir = true
  links : ∀ l, P <+: l → (kept.get? l).any Entry.isLink = false

namespace Kept

theorem sheltered (h : Kept P S) : Sheltered P S S := ⟨h.dirs, fun _ _ => rfl⟩

/-- One more entry in the private directory that is no link. -/
theorem put {l : Location} {e : Entry} (h : Kept P S) (hl : FileSystem.isBelow P l = true)
    (hordinary : ∀ name ∈ l, FileSystem.Ordinary name) (hlink : e.isLink = false) : Kept P (S.put l e) := by
  obtain ⟨hfront, hne⟩ := FileSystem.isBelow_iff.mp hl
  refine ⟨h.named.put hordinary, fun k hk => ?_, fun l' hl' => ?_⟩
  · have hother : P.take k ≠ l := fun heq => by
      have hlength := hfront.length_le
      rw [← heq, List.length_take] at hlength
      omega
    rw [FileSystem.get?_put_of_ne hother]
    exact h.dirs k hk
  · by_cases hsame : l' = l
    · subst hsame
      have hnil : l' ≠ [] := fun hnil => hne (List.prefix_nil.mp (hnil ▸ hfront) ▸ hnil)
      rw [FileSystem.get?_put_self hnil]
      simpa using hlink
    · rw [FileSystem.get?_put_of_ne hsame]
      exact h.links l' hl'

/-- **What is in the private directory is still found there**, whatever was done beside it. -/
theorem present (h : Kept P S) (hbeside : Beside P S bare fs) (hpresent : Present P here env S) :
    Present P here env fs := by
  have hnames : ∀ {more e}, S.locate here (absolutePath (P ++ more)) = .ok (P ++ more, e) →
      (∀ name ∈ P ++ more, FileSystem.Ordinary name) →
      fs.locate here (absolutePath (P ++ more)) = .ok (P ++ more, e) := fun hfound hordinary =>
    h.sheltered.locate hbeside.sheltered h.links hordinary hfound
  refine ⟨?_, hpresent.files.imp fun names hfile => ?_⟩
  · have hdir := hpresent.dir
    rw [← List.append_nil P] at hdir ⊢
    exact hnames hdir (h.named.location (FileSystem.locate_eq_ok_iff.mp hdir).2.1)
  · obtain ⟨content, hfound⟩ := hfile
    have hordinary := h.named.location (FileSystem.locate_eq_ok_iff.mp hfound).2.1
    have hpath := FileSystem.absolutePath_append fun name hname => (hordinary name hname).plain
    refine ⟨content, ?_⟩
    rw [← hpath] at hfound ⊢
    exact hnames hfound hordinary

end Kept

theorem Credentials.StagedEntry.isLink_eq_false {K : ByteString → Prop} {l : Location} {e : Entry}
    (h : StagedEntry P K l e) : e.isLink = false := by
  cases h <;> rfl

namespace HasRoom

theorem apart (h : HasRoom m) : Apart m.scratch :=
  ⟨h.ne_nil, fun hlast => (h.reached.ordinary "." (List.mem_of_getLast? hlast)).1.notCurrent rfl⟩

section Filled

variable {K : ByteString → Prop} (h : HasRoom m)
  (hfilled : Credentials.Filled m.scratch K (Run.enterPrivateDir m).files fs)

include h hfilled

/-- Removing the private directory gives back the files as they were. -/
theorem filled_remove : fs.remove m.scratch = m.files := by
  induction hfilled with
  | refl =>
    exact (FileSystem.remove_put h.apart (List.prefix_refl _)).trans
      (FileSystem.remove_eq_self h.ne_nil h.free h.empty)
  | put _ he ih => exact (FileSystem.remove_put h.apart (FileSystem.isBelow_iff.mp he.isBelow).1).trans ih

theorem filled_get? : fs.get? m.scratch = some (.dir Run.privateDirMode) := by
  rcases hfilled.get? m.scratch with hsame | ⟨e, -, he⟩
  · exact hsame.trans h.entered_get?
  · exact absurd rfl (FileSystem.isBelow_iff.mp he.isBelow).2

/-- Directories still lead to the private directory. -/
theorem filled_dirs (k : Nat) (hk : k < m.scratch.length) :
    (fs.get? (m.scratch.take k)).any Entry.isDir = true := by
  have hnot : ¬ m.scratch.isPrefixOf (m.scratch.take k) = true := by
    rw [List.isPrefixOf_iff_prefix]
    intro hfront
    have hlength := hfront.length_le
    rw [List.length_take] at hlength
    omega
  have hold := h.reached.dirs k hk
  rwa [← h.filled_remove hfilled, FileSystem.get?_remove h.ne_nil, if_neg hnot] at hold

/-- There is no link in the private directory. -/
theorem filled_links (l : Location) (hl : m.scratch <+: l) : (fs.get? l).any Entry.isLink = false := by
  by_cases hsame : l = m.scratch
  · rw [hsame, h.filled_get? hfilled]
    rfl
  rcases hfilled.get? l with hold | ⟨e, hnew, he⟩
  · have hnone := FileSystem.get?_eq_none_of_below h.entered_below (FileSystem.isBelow_iff.mpr ⟨hl, hsame⟩)
    rw [hold, hnone]
    rfl
  · rw [hnew]
    exact he.isLink_eq_false

end Filled

end HasRoom

/-- What staging comes to in a run of the request. -/
def Clone.staged (r : CloneRequest) (m : Machine ρ) : Except Error GitEnvironment × Machine ρ :=
  (Credentials.stageInto (credentialSource r) (absolutePath m.scratch)).exec
    (Run.enterPrivateDir (m.noting (parameterRecords (parameters r))))

/-- What filling the private directory leaves. -/
theorem HasRoom.kept_of_filled {K : ByteString → Prop} (hroom : HasRoom m) (hnamed : fs.Named)
    (hfilled : Credentials.Filled m.scratch K (Run.enterPrivateDir m).files fs) :
    Kept m.scratch fs ∧ fs.remove m.scratch = m.files :=
  ⟨⟨hnamed, hroom.filled_dirs hfilled, hroom.filled_links hfilled⟩, hroom.filled_remove hfilled⟩

/-- What staging leaves when it fails, also if a write broke off. -/
theorem HasRoom.kept_of_partlyStaged {fault : ByteString → Option WriteFault} {sshDir : Option ByteString}
    {e : Error} (hroom : HasRoom m)
    (h : Credentials.PartlyStaged fault here (absolutePath m.scratch) m.scratch sshDir
      (Run.enterPrivateDir m).files e fs) : Kept m.scratch fs ∧ fs.remove m.scratch = m.files := by
  obtain ⟨found, hfirst, habandoned⟩ := h
  have hfound := hfirst.private (fun _ h => h.elim) (hroom.entered_private here _)
  have hprivate : Credentials.Private here (absolutePath m.scratch) m.scratch
      (Credentials.KeyName found here sshDir) found := hfound.mono fun _ h => h.elim
  have hK : ∀ name, Credentials.KeyName found here sshDir name → FileSystem.Ordinary name :=
    fun _ h => h.ordinary hfound.named
  have hall : ∀ {fs}, Credentials.Filled m.scratch (Credentials.KeyName found here sshDir) found fs →
      Kept m.scratch fs ∧ fs.remove m.scratch = m.files := fun hkeys =>
    hroom.kept_of_filled (hkeys.private hK hprivate).named ((hfirst.mono fun _ h => h.elim).trans hkeys)
  cases habandoned with
  | filled hkeys => exact hall hkeys
  | brokenOff hkeys hentry _ =>
    obtain ⟨hkept, hremoved⟩ := hall hkeys
    have hordinary := hentry.ordinary hprivate.ordinary hK
    refine ⟨hkept.put hentry.isBelow hordinary rfl, ?_⟩
    exact (FileSystem.remove_put hroom.apart (FileSystem.isBelow_iff.mp hentry.isBelow).1).trans hremoved

/-- **What staging leaves**: however it ends, the files are as they were apart from the private directory;
and what the environment names is in it. -/
theorem kept_staged (hroom : HasRoom m) (r : CloneRequest) :
    Kept m.scratch (staged r m).2.files ∧ (staged r m).2.files.remove m.scratch = m.files ∧
      (staged r m).2.workDir = m.workDir ∧
      ∀ env, (staged r m).1 = .ok env → Present m.scratch m.workDir env (staged r m).2.files := by
  have hstart := hroom.entered_private m.workDir (fun _ => False)
  have htriple : Run.Triple (ρ := ρ) m.workDir m.writeFault _ _
      (Credentials.stageInto (credentialSource r) (absolutePath m.scratch)) _ :=
    Credentials.triple_stageInto (credentialSource r) hstart
  have hstands : Run.Stands m.workDir m.writeFault
      (Run.enterPrivateDir (m.noting (parameterRecords (parameters r)))) := ⟨rfl, rfl⟩
  cases hstaged : staged r m with
  | mk o m₁ =>
    cases o with
    | error e =>
      obtain ⟨hhere, hpartly⟩ := htriple.of_error hstands .refl hstaged
      obtain ⟨hkept, hremoved⟩ := hroom.kept_of_partlyStaged hpartly
      exact ⟨hkept, hremoved, hhere.1, fun env henv => by cases henv⟩
    | ok env =>
      obtain ⟨hhere, hpoints, hall⟩ := htriple.of_ok hstands .refl hstaged
      obtain ⟨found, hfirst, hprivate, hK, hkeys⟩ := hall.private hstart
      have hfilled := (hfirst.mono fun _ h => h.elim).trans hkeys
      obtain ⟨hkept, hremoved⟩ := hroom.kept_of_filled (hkeys.private hK hprivate).named hfilled
      refine ⟨hkept, hremoved, hhere.1, fun env' henv => ?_⟩
      cases henv
      exact ⟨FileSystem.locate_absolutePath ⟨hroom.reached.ordinary, hkept.dirs⟩ hroom.short
        (hroom.filled_get? hfilled) rfl, hpoints⟩

/-! ## The ground -/

namespace Clone

/-- Clears the directory of the checkout if the request asks for it, and makes it. -/
def clearGround (r : CloneRequest) : Run ρ Unit := do
  if r.deleteExisting then Workspace.clean r.checkoutDir
  Workspace.prepare r.checkoutDir

/-- The ground that git works on: the files as they are, cleared and made by a run that gets so far. -/
def ground (r : CloneRequest) (m : Machine ρ) : FileSystem :=
  if r.validate.isOk && (staged r m).1.isOk then ((clearGround r).exec m).2.files else m.files

theorem setUp_eq (r : CloneRequest) (privateDir : ByteString) :
    setUp (ρ := ρ) r privateDir = (do
      let env ← Credentials.stageInto (credentialSource r) privateDir
      clearGround r
      return env) := by
  unfold setUp clearGround
  refine bind_congr fun env => ?_
  dsimp only
  by_cases hdelete : r.deleteExisting = true
  · rw [if_pos hdelete, if_pos hdelete, bind_assoc]
  · rw [if_neg hdelete, if_neg hdelete]

/-- Setting up goes on where staging ended. -/
theorem prepared_of_staged {m₁ : Machine ρ} (h : staged r m = (.ok env, m₁)) :
    prepared r m = (do
      clearGround r
      return env : Run ρ GitEnvironment).exec m₁ := by
  unfold prepared
  rw [setUp_eq]
  exact Run.exec_bind_ok h

theorem prepared_of_not_staged {m₁ : Machine ρ} {e : Error} (h : staged r m = (.error e, m₁)) :
    prepared r m = (.error e, m₁) := by
  unfold prepared
  rw [setUp_eq]
  exact Run.exec_bind_error h

end Clone

/-- The second machine has what the first one has, beside what was kept at a location. -/
structure BesideMachine (P here : Location) (kept : FileSystem) (m n : Machine ρ) : Prop where
  files : Beside P kept m.files n.files
  workDir : m.workDir = here
  workDir' : n.workDir = here

section Ground

variable (hP : Apart P) (hhere : ¬ P <+: here) (hpath : Pathname.Avoids P r.checkoutDir)

include hP hhere hpath

theorem agree_prepare :
    Agree (BesideMachine P here S : Machine ρ → Machine ρ → Prop) Eq (Workspace.prepare r.checkoutDir)
      (Workspace.prepare r.checkoutDir) := by
  intro m n h
  obtain ⟨hfailure, hmade⟩ := h.files.makeDirs hP hhere hpath
  unfold Workspace.prepare
  rw [Run.exec_makeDirs, Run.exec_makeDirs, h.workDir, h.workDir', hfailure]
  exact ⟨alikeOutcome_refl _, hmade, rfl, rfl⟩

/-- One entry of the directory of the checkout is removed beside the private directory as without it. -/
theorem agree_removeEntry {D : Location} {mode : Nat} {name : ByteString} (hname : FileSystem.Ordinary name)
    (hdir : fs.locate here r.checkoutDir = .ok (D, .dir mode)) (hout : ¬ D <+: P) (isDir : Bool) :
    let R := fun m n : Machine ρ => BesideMachine P here S m n ∧ FileSystem.Pruned D fs n.files
    let x : Run ρ Unit := Run.alter fun files here =>
      files.removeEntry here isDir (Pathname.join r.checkoutDir name)
    Agree R Eq x x := by
  rintro R x m n ⟨h, hpruned⟩
  obtain ⟨haskable, -⟩ := FileSystem.locate_eq_ok_iff.mp hdir
  have hout' : ∀ l bits, n.files.locate here r.checkoutDir = .ok (l, .dir bits) → ¬ l <+: P := by
    intro l bits hfound
    obtain ⟨rfl, -⟩ := hpruned.locate_eq hdir hfound
    exact hout
  unfold x
  rw [Run.exec_alter, Run.exec_alter, h.workDir, h.workDir']
  obtain ⟨e, hm, hn⟩ | ⟨bare, fs', hm, hn, hremoved⟩ :=
    h.files.removeEntry hP hhere hpath haskable hname hout' isDir
  · rw [hm, hn]
    exact ⟨.error _, h, hpruned⟩
  · rw [hm, hn]
    exact ⟨.ok rfl, ⟨hremoved, rfl, rfl⟩, hpruned.trans (hpruned.removeEntry hdir hname hn)⟩

theorem agreeAt_clean (h : BesideMachine P here S m n) (hnamed : m.files.Named)
    (hout : ∀ l e, m.files.locate here r.checkoutDir = .ok (l, e) → ¬ l <+: P) :
    AgreeAt (BesideMachine P here S) Eq (Workspace.clean r.checkoutDir) (Workspace.clean r.checkoutDir)
      m n := by
  have hlocate := h.files.locate hP hhere hpath
  refine Workspace.agreeAt_clean h ?_
  rw [h.workDir, h.workDir', hlocate]
  rw [hlocate] at hout
  cases hfound : n.files.locate here r.checkoutDir with
  | error e => exact Or.inl ⟨e, rfl, rfl⟩
  | ok found =>
    obtain ⟨l, e⟩ := found
    refine Or.inr ⟨l, e, e, rfl, rfl, rfl, fun hdir => ?_⟩
    obtain ⟨mode, rfl⟩ : ∃ mode, e = .dir mode := by
      cases e <;> first | exact ⟨_, rfl⟩ | cases hdir
    have hin := h.files.not_prefix_of_locate hP hhere hpath hfound
    have hkinds : ∀ name, m.files.get? (l ++ [name]) = n.files.get? (l ++ [name]) := by
      intro name
      refine h.files.get?_of_visible hP.ne_nil fun hfront => ?_
      rcases List.prefix_concat_iff.mp hfront with heq | hfront
      · exact hout l _ hfound (heq ▸ List.prefix_append _ _)
      · exact hin hfront
    unfold Workspace.removeChildren
    simp only [hkinds]
    rw [← h.files.childNames hin (hout l _ hfound)]
    have hnoted : BesideMachine P here S (m.noting [Workspace.cleaningRecord r.checkoutDir])
        (n.noting [Workspace.cleaningRecord r.checkoutDir]) := ⟨h.files, h.workDir, h.workDir'⟩
    obtain ⟨hends, hremoved, -⟩ := agree_forM (fun name hname =>
      agree_removeEntry hP hhere hpath (hnamed.childNames hname) hfound (hout l _ hfound) _) _ _
      ⟨hnoted, .refl l _⟩
    exact ⟨hends, hremoved⟩

/-- **The ground is cleared** beside the private directory as without it. -/
theorem agreeAt_clearGround (h : BesideMachine P here S m n) (hnamed : m.files.Named)
    (hout : r.deleteExisting = true →
      ∀ l e, m.files.locate here r.checkoutDir = .ok (l, e) → ¬ l <+: P) :
    AgreeAt (BesideMachine P here S) Eq (clearGround r) (clearGround r) m n := by
  have hprepare := agree_prepare (ρ := ρ) (S := S) hP hhere hpath
  unfold clearGround
  by_cases hdelete : r.deleteExisting = true
  · rw [if_pos hdelete]
    exact (agreeAt_clean hP hhere hpath h hnamed (hout hdelete)).bind fun _ _ _ => hprepare
  · rw [if_neg hdelete]
    exact hprepare m n h

end Ground

/-- The name of the private directory is new: the path name of the checkout and the links do not have it.
And the private directory is not in a directory that is cleared. -/
structure Secluded (r : CloneRequest) (m : Machine ρ) : Prop where
  workDir : ¬ m.scratch <+: m.workDir
  checkoutDir : Pathname.Avoids m.scratch r.checkoutDir
  links : ∀ l target, m.files.get? l = some (.link target) → Pathname.Avoids m.scratch target
  outside : r.deleteExisting = true →
    ∀ l e, m.files.locate m.workDir r.checkoutDir = .ok (l, e) → ¬ l <+: m.scratch

/-- **What setting up leaves**: the ground, and beside it the private directory as staging has left it. -/
theorem beside_prepared (hroom : HasRoom m) (hsecluded : Secluded r m) (hvalid : r.validate = .ok ()) :
    Beside m.scratch (staged r m).2.files (ground r m) (prepared r m).2.files ∧
      (prepared r m).2.workDir = m.workDir ∧
      ∀ env, (prepared r m).1 = .ok env → (staged r m).1 = .ok env := by
  obtain ⟨hkept, hrest, hwork, -⟩ := kept_staged hroom r
  have hbeside : Beside m.scratch (staged r m).2.files m.files (staged r m).2.files :=
    ⟨hrest, hkept.sheltered, hsecluded.links⟩
  unfold ground
  rw [hvalid]
  cases hstaged : staged r m with
  | mk o m₁ =>
    rw [hstaged] at hbeside hwork
    cases o with
    | error e =>
      rw [prepared_of_not_staged hstaged]
      exact ⟨hbeside, hwork, fun env henv => henv⟩
    | ok env =>
      have hmachine : BesideMachine m.scratch m.workDir m₁.files m m₁ := ⟨hbeside, rfl, hwork⟩
      obtain ⟨-, hdone⟩ := agreeAt_clearGround hroom.apart hsecluded.workDir hsecluded.checkoutDir
        hmachine hroom.named hsecluded.outside
      rw [prepared_of_staged hstaged, Run.exec_bind]
      generalize (clearGround r).exec m₁ = cleared at hdone
      obtain ⟨o, m₂⟩ := cleared
      cases o with
      | error e => exact ⟨hdone.files, hdone.workDir', fun env' henv => by cases henv⟩
      | ok _ => exact ⟨hdone.files, hdone.workDir', fun env' henv => henv⟩

end Checkout
