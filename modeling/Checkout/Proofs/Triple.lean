import Checkout.Proofs.Execution

/-!
# Triples

A triple says of the files what holds after a run if something held before it: one assertion for the run
that ends with a value, another for the one that fails, which may speak of the error. A run that fails has
not undone what it did, so what holds then has to hold all the way. A triple is about the machines with one
working directory and with the same writes that break off.

Results:
* `triple_bind`, `triple_forM`, `triple_filterMapM`: triples are composed like runs;
* `triple_ask`, `triple_query`: triples of the steps that look at the files;
* `triple_alter`, `triple_makeDirs`, `triple_writeFile`: triples of the steps that change them.
-/

namespace Checkout.Run

variable {ρ α β : Type} {here : Location} {fault : ByteString → Option WriteFault}
  {failed : Error → FileSystem → Prop} {pre : FileSystem → Prop} {post : α → FileSystem → Prop}

/-- The machine has this working directory, and these writes break off on it. -/
def Stands (here : Location) (fault : ByteString → Option WriteFault) (m : Machine ρ) : Prop :=
  m.workDir = here ∧ m.writeFault = fault

/-- What holds at the end of a run: the machine stands where it stood, and an assertion for the value or
for the failure holds of the files. -/
def Ended (here : Location) (fault : ByteString → Option WriteFault) (failed : Error → FileSystem → Prop)
    (post : α → FileSystem → Prop) : Except Error α × Machine ρ → Prop
  | (.ok a, m) => Stands here fault m ∧ post a m.files
  | (.error e, m) => Stands here fault m ∧ failed e m.files

/-- From files of which `pre` holds, a run comes to files of which `post` holds with its value, or
`failed` with its error if it has none. -/
def Triple (here : Location) (fault : ByteString → Option WriteFault) (failed : Error → FileSystem → Prop)
    (pre : FileSystem → Prop) (x : Run ρ α) (post : α → FileSystem → Prop) : Prop :=
  ∀ m : Machine ρ, Stands here fault m → pre m.files → Ended here fault failed post (x.exec m)

theorem Triple.of_ok {x : Run ρ α} {m m' : Machine ρ} {a : α} (h : Triple here fault failed pre x post)
    (hhere : Stands here fault m) (hpre : pre m.files) (hx : x.exec m = (.ok a, m')) :
    Stands here fault m' ∧ post a m'.files := by
  have hended := h m hhere hpre
  rwa [hx] at hended

theorem Triple.of_error {x : Run ρ α} {m m' : Machine ρ} {e : Error} (h : Triple here fault failed pre x post)
    (hhere : Stands here fault m) (hpre : pre m.files) (hx : x.exec m = (.error e, m')) :
    Stands here fault m' ∧ failed e m'.files := by
  have hended := h m hhere hpre
  rwa [hx] at hended

/-- A triple of stronger assertions before and weaker ones after. -/
theorem Triple.weaken {failed' : Error → FileSystem → Prop} {pre' : FileSystem → Prop}
    {post' : α → FileSystem → Prop} {x : Run ρ α} (h : Triple here fault failed pre x post)
    (hpre : ∀ fs, pre' fs → pre fs)
    (hpost : ∀ a fs, post a fs → post' a fs) (hfailed : ∀ e fs, failed e fs → failed' e fs) :
    Triple here fault failed' pre' x post' := by
  intro m hhere hm
  have hended := h m hhere (hpre _ hm)
  cases hx : x.exec m with
  | mk o m' =>
    rw [hx] at hended
    cases o with
    | ok a => exact ⟨hended.1, hpost a _ hended.2⟩
    | error e => exact ⟨hended.1, hfailed e _ hended.2⟩

/-- A fact that does not depend on the files is known from there on. -/
theorem triple_given {p : Prop} {x : Run ρ α} (h : p → Triple here fault failed pre x post) :
    Triple here fault failed (fun fs => p ∧ pre fs) x post :=
  fun m hhere hm => h hm.1 m hhere hm.2

/-- A triple holds if it does from each of the files that it is about. -/
theorem triple_from {x : Run ρ α} (h : ∀ fs, pre fs → Triple here fault failed (· = fs) x post) :
    Triple here fault failed pre x post :=
  fun m hhere hm => h m.files hm m hhere rfl

/-! ## Composition -/

theorem triple_pure {a : α} (h : ∀ fs, pre fs → post a fs) :
    Triple here fault failed pre (pure a : Run ρ α) post :=
  fun _ hhere hm => ⟨hhere, h _ hm⟩

theorem triple_throw {e : Error} (h : ∀ fs, pre fs → failed e fs) :
    Triple here fault failed pre (throw e : Run ρ α) post :=
  fun _ hhere hm => ⟨hhere, h _ hm⟩

/-- **Runs one after another**: what the first one establishes is where the second one begins. -/
theorem triple_bind {x : Run ρ α} {f : α → Run ρ β} {mid : α → FileSystem → Prop}
    {post : β → FileSystem → Prop} (hx : Triple here fault failed pre x mid)
    (hf : ∀ a, Triple here fault failed (mid a) (f a) post) :
    Triple here fault failed pre (x >>= f) post := by
  intro m hhere hm
  have hended := hx m hhere hm
  rw [exec_bind]
  cases hx : x.exec m with
  | mk o m' =>
    rw [hx] at hended
    cases o with
    | ok a => exact hf a m' hended.1 hended.2
    | error e => exact hended

/-- The second run does not need what the first one found out. -/
theorem triple_then {x : Run ρ α} {f : α → Run ρ β} {fact : α → FileSystem → Prop}
    {mid : FileSystem → Prop} {post : β → FileSystem → Prop}
    (hx : Triple here fault failed pre x fun a fs => fact a fs ∧ mid fs)
    (hf : ∀ a, Triple here fault failed mid (f a) post) : Triple here fault failed pre (x >>= f) post :=
  triple_bind hx fun a => (hf a).weaken (fun _ h => h.2) (fun _ _ h => h) fun _ _ h => h

theorem triple_ite {c : Prop} [Decidable c] {x y : Run ρ α}
    (hthen : c → Triple here fault failed pre x post) (helse : ¬ c → Triple here fault failed pre y post) :
    Triple here fault failed pre (if c then x else y) post := by
  by_cases hc : c
  · rw [if_pos hc]
    exact hthen hc
  · rw [if_neg hc]
    exact helse hc

/-- An assertion of what is done so far goes through a list. -/
theorem triple_forM {f : α → Run ρ Unit} {inv : List α → FileSystem → Prop} {as : List α}
    (h : ∀ done a, a ∈ as → Triple here fault failed (inv done) (f a) fun _ => inv (done ++ [a])) :
    ∀ done, Triple here fault failed (inv done) (as.forM f) fun _ => inv (done ++ as) := by
  induction as with
  | nil =>
    intro done
    exact triple_pure fun fs hfs => by rwa [List.append_nil]
  | cons a as ih =>
    intro done
    have hrest := ih (fun done b hb => h done b (List.mem_cons_of_mem a hb)) (done ++ [a])
    rw [List.append_assoc] at hrest
    exact triple_bind (h done a List.mem_cons_self) fun _ => hrest

/-- What is found in a list is found for one of its members, if the search leaves the files alone. -/
theorem triple_filterMapM {f : α → Run ρ (Option β)} {as : List α} (found : α → β → Prop)
    (h : ∀ a, a ∈ as →
      Triple here fault failed pre (f a) fun o fs => (∀ b, o = some b → found a b) ∧ pre fs) :
    Triple here fault failed pre (as.filterMapM f)
      fun bs fs => (∀ b, b ∈ bs → ∃ a, a ∈ as ∧ found a b) ∧ pre fs := by
  suffices hloop : ∀ (rest : List α) (bs : List β), (∀ a, a ∈ rest → a ∈ as) →
      (∀ b, b ∈ bs → ∃ a, a ∈ as ∧ found a b) →
      Triple here fault failed pre (List.filterMapM.loop f rest bs)
        fun bs fs => (∀ b, b ∈ bs → ∃ a, a ∈ as ∧ found a b) ∧ pre fs from
    hloop as [] (fun _ h => h) (by simp)
  intro rest
  induction rest with
  | nil =>
    intro bs _ hbs
    exact triple_pure fun fs hfs => ⟨fun b hb => hbs b (List.mem_reverse.mp hb), hfs⟩
  | cons a rest ih =>
    intro bs hrest hbs
    have ha := hrest a List.mem_cons_self
    have hmore := fun b hb => hrest b (List.mem_cons_of_mem a hb)
    refine triple_bind (h a ha) fun o => triple_given fun hfound => ?_
    cases o with
    | none => exact ih bs hmore hbs
    | some b =>
      refine ih (b :: bs) hmore fun b' hb' => ?_
      rcases List.mem_cons.mp hb' with rfl | hb'
      · exact ⟨a, ha, hfound b' rfl⟩
      · exact hbs b' hb'

/-! ## Steps -/

theorem triple_write (level : Level) (part : Part) (message : String) :
    Triple here fault failed pre (write level part message : Run ρ Unit) fun _ => pre :=
  fun _ hhere hm => ⟨hhere, hm⟩

theorem triple_ofExcept (e : Except Error α) (h : ∀ e fs, pre fs → failed e fs) :
    Triple here fault failed pre (ofExcept e : Run ρ α) fun a fs => e = .ok a ∧ pre fs := by
  intro m hhere hm
  rw [exec_ofExcept]
  cases e with
  | ok a => exact ⟨hhere, rfl, hm⟩
  | error e => exact ⟨hhere, h _ _ hm⟩

theorem triple_ask (f : FileSystem → Location → α) :
    Triple here fault failed pre (ask f : Run ρ α) fun a fs => f fs here = a ∧ pre fs := by
  intro m hhere hm
  rw [exec_ask]
  exact ⟨hhere, by rw [hhere.1], hm⟩

/-- What is seen of files that are known is known. -/
theorem triple_seen (f : FileSystem → Location → α) (fs : FileSystem) :
    Triple here fault failed (· = fs) (ask f : Run ρ α) fun a fs' => f fs here = a ∧ fs' = fs :=
  (triple_ask f).weaken (fun _ h => h) (fun _ _ h => ⟨h.2 ▸ h.1, h.2⟩) fun _ _ h => h

theorem triple_query (f : FileSystem → Location → Except IoError α) (h : ∀ e fs, pre fs → failed e fs) :
    Triple here fault failed pre (query f : Run ρ α) fun a fs => f fs here = .ok a ∧ pre fs := by
  intro m hhere hm
  rw [exec_query, hhere.1]
  cases hf : f m.files here with
  | ok a => exact ⟨hhere, hf, hm⟩
  | error e => exact ⟨hhere, h _ _ hm⟩

/-- What is read from files that are known is known. -/
theorem triple_look (f : FileSystem → Location → Except IoError α) (fs : FileSystem) :
    Triple here fault (fun _ => (· = fs)) (· = fs) (query f : Run ρ α)
      fun a fs' => f fs here = .ok a ∧ fs' = fs :=
  (triple_query f fun _ _ h => h).weaken (fun _ h => h) (fun _ _ h => ⟨h.2 ▸ h.1, h.2⟩) fun _ _ h => h

/-- A change of the files takes one assertion to another if it does so wherever it succeeds. -/
theorem triple_alter (f : FileSystem → Location → Except IoError FileSystem) {mid : FileSystem → Prop}
    (hok : ∀ fs fs', pre fs → f fs here = .ok fs' → mid fs') (hfailed : ∀ e fs, pre fs → failed e fs) :
    Triple here fault failed pre (alter f : Run ρ Unit) fun _ => mid := by
  rintro m ⟨rfl, rfl⟩ hm
  rw [exec_alter]
  cases hf : f m.files m.workDir with
  | ok fs' => exact ⟨⟨rfl, rfl⟩, hok m.files fs' hm hf⟩
  | error e => exact ⟨⟨rfl, rfl⟩, hfailed _ m.files hm⟩

/-- Writing a file takes one assertion to another if it does so where the whole is written, and where the
writing breaks off. -/
theorem triple_writeFile (path : ByteString) (content : List UInt8) {mid : FileSystem → Prop}
    (hok : ∀ fs fs', pre fs → fs.writeBytes here path content = .ok fs' → mid fs')
    (hfailed : ∀ e fs, pre fs → failed e fs)
    (hbroken : ∀ written e fs fs', fault path = some (.after written e) → pre fs →
      fs.writeBytes here path (content.take written) = .ok fs' → failed (.io e) fs') :
    Triple here fault failed pre (writeFile path content : Run ρ Unit) fun _ => mid := by
  rintro m ⟨rfl, rfl⟩ hm
  rw [exec_writeFile]
  cases hfault : m.writeFault path with
  | none => exact triple_alter _ hok hfailed m ⟨rfl, rfl⟩ hm
  | some f =>
    cases f with
    | unopened e => exact ⟨⟨rfl, rfl⟩, hfailed _ m.files hm⟩
    | after written e =>
      dsimp only
      cases hwrite : m.files.writeBytes m.workDir path (content.take written) with
      | ok fs' => exact ⟨⟨rfl, rfl⟩, hbroken written e m.files fs' hfault hm hwrite⟩
      | error e' => exact ⟨⟨rfl, rfl⟩, hfailed _ m.files hm⟩

/-- Making directories takes one assertion to another if it does so also where it fails. -/
theorem triple_makeDirs (path : ByteString) {mid : FileSystem → Prop}
    (hok : ∀ fs, pre fs → mid (fs.makeDirs here path).1)
    (hfailed : ∀ e fs, pre fs → failed e (fs.makeDirs here path).1) :
    Triple here fault failed pre (makeDirs path : Run ρ Unit) fun _ => mid := by
  rintro m ⟨rfl, rfl⟩ hm
  have hmid := hok m.files hm
  rw [exec_makeDirs]
  cases (m.files.makeDirs m.workDir path).2 with
  | none => exact ⟨⟨rfl, rfl⟩, hmid⟩
  | some e => exact ⟨⟨rfl, rfl⟩, hfailed _ m.files hm⟩

end Checkout.Run
