import Checkout.Clone.Run
import Checkout.Proofs.Agreement
import Checkout.Proofs.Workspace

/-!
# Before the first command

What a checkout does before git is called for the first time: it logs the request, stages credentials
and prepares its directory. All of this only reads and writes files and the log, and of the URL it needs
nothing but the host and what the log may show.

Results:
* `agree_stageInto`, `agree_setUp`: setting up agrees for requests that differ in their URLs only;
* `setUp_repo`: setting up leaves what answers the commands alone;
* `exec_run_of_valid`: what a run is around the work in the directory of the checkout.
-/

namespace Checkout

open Clone

variable {ρ σ : Type} {R : Machine ρ → Machine σ → Prop}

/-! ## Credentials -/

namespace Credentials

theorem agree_writePrivate (hR : Blind R) (path : ByteString) (content : List UInt8) :
    Agree R Eq (writePrivate path content) (writePrivate path content) :=
  agree_then (agree_writeFile hR _ _) fun _ => agree_alter hR _

theorem agree_stageStore (hR : Blind R) (authDir privateDir : ByteString) :
    Agree R Eq (stageStore authDir privateDir) (stageStore authDir privateDir) := by
  unfold stageStore
  refine agree_then (agree_write hR _ _ _) fun _ => ?_
  refine agree_then (agree_query hR _) fun content => ?_
  refine agree_then (agree_writePrivate hR _ content) fun _ => ?_
  refine agree_then (agree_query hR _) fun text => ?_
  refine agree_then (agree_writePrivate hR _ _) fun _ => ?_
  refine agree_then (agree_write hR _ _ _) fun _ => ?_
  exact agree_pure rfl

/-- Of the URL only the host is needed. -/
theorem agree_stageUser (hR : Blind R) {url url' : String} (hhost : hostOf url = hostOf url')
    (authDir privateDir : ByteString) :
    Agree R Eq (stageUser url authDir privateDir) (stageUser url' authDir privateDir) := by
  unfold stageUser
  rw [hhost]
  refine agree_then (agree_write hR _ _ _) fun _ => ?_
  refine agree_then (agree_query hR _) fun username => ?_
  refine agree_then (agree_query hR _) fun password => ?_
  refine agree_then (agree_ofExcept _) fun host => ?_
  refine agree_then (agree_writePrivate hR _ _) fun _ => ?_
  refine agree_then (agree_writePrivate hR _ _) fun _ => ?_
  refine agree_then (agree_write hR _ _ _) fun _ => ?_
  exact agree_pure rfl

theorem agree_stageBasicAuth (hR : Blind R) {url url' : String} (hhost : hostOf url = hostOf url')
    (authDir privateDir : ByteString) :
    Agree R Eq (stageBasicAuth url authDir privateDir) (stageBasicAuth url' authDir privateDir) := by
  unfold stageBasicAuth
  dsimp only
  refine agree_then (agree_ask hR _) fun isThere => ?_
  refine agree_ite (fun _ => ?_) fun _ => ?_
  · exact agree_then (agree_write hR _ _ _) fun _ => agree_pure rfl
  refine agree_then (agree_ask hR _) fun hasStore => ?_
  refine agree_ite (fun _ => ?_) fun _ => ?_
  · exact agree_then (agree_stageStore hR _ _) fun _ => agree_pure rfl
  refine agree_then (agree_ask hR _) fun hasUser => ?_
  refine agree_ite (fun _ => ?_) fun _ => ?_
  · exact agree_then (agree_stageUser hR hhost _ _) fun _ => agree_pure rfl
  · exact agree_throw _

theorem agree_fileNames (hR : Blind R) (dir : ByteString) :
    Agree R Eq (fileNames dir) (fileNames dir) := by
  unfold fileNames
  refine agree_then (agree_query hR _) fun names => ?_
  exact agree_filterMapM (fun name => agree_then (agree_query hR _) fun _ => agree_pure rfl) _

theorem agree_copyKey (hR : Blind R) (dir destination name : ByteString) :
    Agree R Eq (copyKey dir destination name) (copyKey dir destination name) :=
  agree_then (agree_query hR _) fun _ => agree_writePrivate hR _ _

theorem agree_stageSsh (hR : Blind R) (sshDir privateDir : ByteString) :
    Agree R Eq (stageSsh sshDir privateDir) (stageSsh sshDir privateDir) := by
  unfold stageSsh
  dsimp only
  refine agree_then (agree_ask hR _) fun isThere => ?_
  refine agree_ite (fun _ => ?_) fun _ => ?_
  · exact agree_then (agree_write hR _ _ _) fun _ => agree_pure rfl
  refine agree_then (agree_write hR _ _ _) fun _ => ?_
  refine agree_then (agree_makeDirs hR _) fun _ => ?_
  refine agree_then (agree_alter hR _) fun _ => ?_
  refine agree_then (agree_fileNames hR _) fun names => ?_
  refine agree_then (agree_forM fun name _ => agree_copyKey hR _ _ name) fun _ => ?_
  refine agree_then (agree_ask hR _) fun hasKnownHosts => ?_
  refine agree_then (agree_write hR _ _ _) fun _ => ?_
  exact agree_pure rfl

theorem agree_stageCertificates (hR : Blind R) (source : CredentialSource) (url : String) :
    Agree R Eq (stageCertificates source) (stageCertificates { source with url := url }) := by
  unfold stageCertificates
  dsimp only
  refine agree_ite (fun _ => ?_) fun _ => ?_
  · refine agree_then (agree_write hR _ _ _) fun _ => ?_
    refine agree_then (agree_ask hR _) fun isThere => ?_
    refine agree_ite (fun _ => ?_) fun _ => agree_pure rfl
    exact agree_then (agree_write hR _ _ _) fun _ => agree_pure rfl
  · refine agree_then (agree_ask hR _) fun isThere => ?_
    refine agree_ite (fun _ => ?_) fun _ => agree_pure rfl
    exact agree_then (agree_write hR _ _ _) fun _ => agree_pure rfl

/-- **Staging needs the host of the URL only.** -/
theorem agree_stageInto (hR : Blind R) (source : CredentialSource) {url : String}
    (hhost : hostOf source.url = hostOf url) (privateDir : ByteString) :
    Agree R Eq (stageInto source privateDir) (stageInto { source with url := url } privateDir) := by
  unfold stageInto
  refine agree_then (agree_stageCertificates hR source url) fun env => ?_
  dsimp only
  cases source.basicAuthDir with
  | none =>
    refine agree_then (agree_pure rfl) fun config => ?_
    cases source.sshDir with
    | none => exact agree_then (agree_pure rfl) fun _ => agree_pure rfl
    | some dir => exact agree_then (agree_stageSsh hR _ _) fun _ => agree_pure rfl
  | some authDir =>
    refine agree_then (agree_stageBasicAuth hR hhost _ _) fun config => ?_
    cases source.sshDir with
    | none => exact agree_then (agree_pure rfl) fun _ => agree_pure rfl
    | some dir => exact agree_then (agree_stageSsh hR _ _) fun _ => agree_pure rfl

end Credentials

/-! ## The directory of the checkout -/

/-- Emptying a directory agrees if it is found at the same location or fails to be found alike, is a directory
in both or in none, and what is in it is removed alike. -/
theorem Workspace.agreeAt_clean {path : ByteString} {m : Machine ρ} {n : Machine σ} (h : R m n)
    (hfound : (∃ e, m.files.locate m.workDir path = .error e ∧ n.files.locate n.workDir path = .error e) ∨
      ∃ l e e', m.files.locate m.workDir path = .ok (l, e) ∧ n.files.locate n.workDir path = .ok (l, e') ∧
        e.isDir = e'.isDir ∧ (e'.isDir = true →
          AgreeAt R Eq (removeChildren m.files l path) (removeChildren n.files l path)
            (m.noting [cleaningRecord path]) (n.noting [cleaningRecord path]))) :
    AgreeAt R Eq (clean path) (clean path) m n := by
  unfold clean AgreeAt
  rw [Run.exec_bind_ok (Run.exec_get m), Run.exec_bind_ok (Run.exec_get n)]
  obtain ⟨e, hm, hn⟩ | ⟨l, e, e', hm, hn, hdir, hremoved⟩ := hfound
  · rw [hm, hn]
    cases e with
    | os errno => cases errno <;> first | exact agree_pure rfl m n h | exact agree_throw _ m n h
    | _ => exact agree_throw _ m n h
  · rw [hm, hn]
    dsimp only
    rw [hdir]
    by_cases hkind : (!e'.isDir) = true
    · rw [if_pos hkind, if_pos hkind]
      exact agree_throw _ m n h
    · rw [if_neg hkind, if_neg hkind, Run.exec_bind_ok (Run.exec_write _ _ _ m),
        Run.exec_bind_ok (Run.exec_write _ _ _ n)]
      exact hremoved (by simpa using hkind)

theorem Workspace.agree_removeChildren (hR : Blind R) (files : FileSystem) (l : Location) (path : ByteString) :
    Agree R Eq (removeChildren files l path) (removeChildren files l path) :=
  agree_forM fun _ _ => agree_alter hR _

theorem Workspace.agree_clean (hR : Blind R) (path : ByteString) :
    Agree R Eq (Workspace.clean path) (Workspace.clean path) := by
  intro m n h
  refine agreeAt_clean h ?_
  rw [hR.files h, hR.workDir h]
  cases n.files.locate n.workDir path with
  | error e => exact Or.inl ⟨e, rfl, rfl⟩
  | ok found =>
    exact Or.inr ⟨_, _, _, rfl, rfl, rfl, fun _ => agree_removeChildren hR _ _ _ _ _ (hR.noting h _)⟩

/-! ## The request -/

/-- The request with other URLs. -/
def CloneRequest.withUrls (r : CloneRequest) (url : String) (source : Option String) : CloneRequest :=
  { r with url := url, mergeSourceRepoUrl := source }

/-- Other URLs for a request are alike where they are used before the first command: in the log, and as
the host of credentials. -/
structure AlikeUrls (r : CloneRequest) (url : String) (source : Option String) : Prop where
  shown : redact r.url = redact url
  shownSource : r.mergeSourceRepoUrl.map redact = source.map redact
  host : Credentials.hostOf r.url = Credentials.hostOf url

theorem AlikeUrls.refl (r : CloneRequest) : AlikeUrls r r.url r.mergeSourceRepoUrl := ⟨rfl, rfl, rfl⟩

variable {r : CloneRequest} {url : String} {source : Option String}

theorem parameters_withUrls (h : AlikeUrls r url source) :
    parameters (r.withUrls url source) = parameters r := by
  unfold parameters
  rw [h.shown, h.shownSource]
  rfl

/-- The lines of the log for the parameters that have a value. -/
def parameterRecords (parameters : List (String × Option String)) : List Record :=
  parameters.filterMap fun (name, value) =>
    value.map fun text => ⟨.info, .clone, s!"[param] {name}: {text}"⟩

/-- **Writing the request** only writes to the log. -/
theorem exec_writeParameters (r : CloneRequest) (m : Machine ρ) :
    (writeParameters r).exec m = (.ok (), m.noting (parameterRecords (parameters r))) := by
  unfold writeParameters
  induction parameters r generalizing m with
  | nil =>
    rw [parameterRecords, List.filterMap_nil, Machine.noting_nil]
    rfl
  | cons parameter rest ih =>
    obtain ⟨name, value⟩ := parameter
    cases value with
    | none => exact (Run.exec_bind_ok rfl).trans (ih m)
    | some text =>
      have hrest := ih (m.noting [⟨.info, .clone, s!"[param] {name}: {text}"⟩])
      rw [Machine.noting_noting] at hrest
      exact (Run.exec_bind_ok rfl).trans hrest

/-- **Setting up** is the same for alike URLs. -/
theorem agree_setUp (hR : Blind R) (h : AlikeUrls r url source) (privateDir : ByteString) :
    Agree R Eq (setUp r privateDir) (setUp (r.withUrls url source) privateDir) := by
  have hdir : (r.withUrls url source).checkoutDir = r.checkoutDir := rfl
  have hdelete : (r.withUrls url source).deleteExisting = r.deleteExisting := rfl
  unfold setUp
  rw [hdir, hdelete]
  refine agree_then (Credentials.agree_stageInto hR (credentialSource r) h.host privateDir) fun env => ?_
  dsimp only
  refine agree_ite (fun _ => ?_) fun _ => ?_
  · refine agree_then (Workspace.agree_clean hR _) fun _ => ?_
    exact agree_then (agree_makeDirs hR _) fun _ => agree_pure rfl
  · exact agree_then (agree_makeDirs hR _) fun _ => agree_pure rfl

/-! ## What answers the commands is left alone -/

/-- Equal machines, with something that answers the commands. -/
def SameWith (repo : ρ) (m n : Machine ρ) : Prop := m = n ∧ m.repo = repo

theorem blind_sameWith (repo : ρ) : Blind (SameWith repo) where
  files := fun h => by rw [h.1]
  workDir := fun h => by rw [h.1]
  writeFault := fun h => by rw [h.1]
  alter := fun {m n} h fs => by
    obtain ⟨rfl, hrepo⟩ := h
    exact ⟨rfl, hrepo⟩
  noting := fun {m n} h _ => by
    obtain ⟨rfl, hrepo⟩ := h
    exact ⟨rfl, hrepo⟩

theorem setUp_repo (r : CloneRequest) (privateDir : ByteString) (m : Machine ρ) :
    ((setUp r privateDir).exec m).2.repo = m.repo :=
  (agree_setUp (blind_sameWith m.repo) (AlikeUrls.refl r) privateDir m m ⟨rfl, rfl⟩).2.2

/-! ## The run around it -/

namespace Clone

/-- What setting up comes to in a run of the request: the environment of git and the machine. -/
def prepared (r : CloneRequest) (m : Machine ρ) : Except Error GitEnvironment × Machine ρ :=
  (setUp r (FileSystem.absolutePath m.scratch)).exec
    (Run.enterPrivateDir (m.noting (parameterRecords (parameters r))))

/-- Setting up leaves what answers the commands alone. -/
theorem prepared_repo (r : CloneRequest) (m : Machine ρ) : (prepared r m).2.repo = m.repo :=
  setUp_repo r _ _

/-- Before anything else is done, a request is written to the log and checked. -/
theorem exec_checked {α : Type} (r : CloneRequest) (body : Run ρ α) (m : Machine ρ) :
    (do
      writeParameters r
      Run.ofExcept r.validate
      body : Run ρ α).exec m =
      match r.validate with
      | .ok _ => body.exec (m.noting (parameterRecords (parameters r)))
      | .error e => (.error e, m.noting (parameterRecords (parameters r))) := by
  rw [Run.exec_bind_ok (exec_writeParameters r m), Run.exec_bind, Run.exec_ofExcept]
  cases r.validate <;> rfl

/-- A run of a request that makes sense ends with its setting up, if that fails, or goes on in the
directory of the checkout. The private directory is gone in the end. -/
theorem exec_run_of_valid (client : RepositoryClient ρ) {r : CloneRequest} (m : Machine ρ)
    (hvalid : r.validate = .ok ()) :
    (run client r).exec m =
      match prepared r m with
      | (.ok env, m₁) =>
        let o := (inCheckout client r ⟨r.checkoutDir, env⟩).exec m₁
        (o.1, { o.2 with files := o.2.files.remove m.scratch })
      | (.error e, m₁) => (.error e, { m₁ with files := m₁.files.remove m.scratch }) := by
  unfold run
  rw [exec_checked, hvalid]
  dsimp only
  rw [Run.exec_withPrivateDir]
  unfold withStaged prepared
  rw [Run.exec_bind]
  dsimp only
  rw [show (m.noting (parameterRecords (parameters r))).scratch = m.scratch from rfl]
  cases (setUp r (FileSystem.absolutePath m.scratch)).exec
      (Run.enterPrivateDir (m.noting (parameterRecords (parameters r)))) with
  | mk o m₁ => cases o <;> rfl

theorem exec_run_of_prepared (client : RepositoryClient ρ) {r : CloneRequest} {m m₁ : Machine ρ}
    {env : GitEnvironment} (hvalid : r.validate = .ok ()) (hprepared : prepared r m = (.ok env, m₁)) :
    (run client r).exec m =
      let o := (inCheckout client r ⟨r.checkoutDir, env⟩).exec m₁
      (o.1, { o.2 with files := o.2.files.remove m.scratch }) := by
  rw [exec_run_of_valid client m hvalid, hprepared]

theorem exec_run_of_not_prepared (client : RepositoryClient ρ) {r : CloneRequest} {m m₁ : Machine ρ}
    {e : Error} (hvalid : r.validate = .ok ()) (hprepared : prepared r m = (.error e, m₁)) :
    (run client r).exec m = (.error e, { m₁ with files := m₁.files.remove m.scratch }) := by
  rw [exec_run_of_valid client m hvalid, hprepared]

theorem exec_run_of_not_valid (client : RepositoryClient ρ) {r : CloneRequest} (m : Machine ρ)
    {e : Error} (hvalid : r.validate = .error e) :
    (run client r).exec m = (.error e, m.noting (parameterRecords (parameters r))) := by
  unfold run
  rw [exec_checked, hvalid]

end Clone

end Checkout
