import Checkout.Proofs.Execution

/-!
# Runs that agree

Two runs agree under a relation between machines if they take related machines to related machines and
end alike: both with related values, or both with the same error. A relation is `Blind` if it cannot
tell apart what the files and the log can do to both machines at once; runs that only read and write
files and the log agree with themselves under it.

Results:
* `agree_bind`, `AgreeAt.bind_ok`: agreement is composed of the agreement of the parts;
* `agree_query`, `agree_alter`, `agree_writeFile`, `agree_makeDirs`, `agree_write`: the parts.
-/

namespace Checkout

variable {ρ σ α β γ δ : Type}

/-- Outcomes that are alike: related values, or the same error. -/
inductive AlikeOutcome (V : α → β → Prop) : Except Error α → Except Error β → Prop
  | ok {a : α} {b : β} : V a b → AlikeOutcome V (.ok a) (.ok b)
  | error (e : Error) : AlikeOutcome V (.error e) (.error e)

theorem AlikeOutcome.eq {o o' : Except Error α} (h : AlikeOutcome Eq o o') : o = o' := by
  cases h with
  | ok hab => exact congrArg Except.ok hab
  | error e => rfl

/-- Two runs agree: from related machines they come to alike outcomes and related machines. -/
def Agree (R : Machine ρ → Machine σ → Prop) (V : α → β → Prop) (x : Run ρ α) (y : Run σ β) : Prop :=
  ∀ m n, R m n → AlikeOutcome V (x.exec m).1 (y.exec n).1 ∧ R (x.exec m).2 (y.exec n).2

/-- Two runs agree from two machines, which need not be related themselves. -/
def AgreeAt (R : Machine ρ → Machine σ → Prop) (V : α → β → Prop) (x : Run ρ α) (y : Run σ β)
    (m : Machine ρ) (n : Machine σ) : Prop :=
  AlikeOutcome V (x.exec m).1 (y.exec n).1 ∧ R (x.exec m).2 (y.exec n).2

/-- A relation between machines with the same files, on which the same writes break off, that changes of the
files and records in the log keep. -/
structure Blind (R : Machine ρ → Machine σ → Prop) : Prop where
  files : ∀ {m n}, R m n → m.files = n.files
  workDir : ∀ {m n}, R m n → m.workDir = n.workDir
  writeFault : ∀ {m n}, R m n → m.writeFault = n.writeFault
  alter : ∀ {m n}, R m n → ∀ fs, R { m with files := fs } { n with files := fs }
  noting : ∀ {m n}, R m n → ∀ record, R (m.noting [record]) (n.noting [record])

variable {R : Machine ρ → Machine σ → Prop} {V : α → β → Prop} {W : γ → δ → Prop}

theorem alikeOutcome_refl (o : Except Error α) : AlikeOutcome Eq o o := by
  cases o with
  | ok a => exact .ok rfl
  | error e => exact .error e

/-- A run that agrees with one that ended with a value ends with that value. -/
theorem Agree.exec_ok {x : Run ρ α} {y : Run σ α} {m m' : Machine ρ} {n : Machine σ} {a : α}
    (h : Agree R Eq x y) (hR : R m n) (hx : x.exec m = (.ok a, m')) :
    ∃ n', y.exec n = (.ok a, n') ∧ R m' n' := by
  obtain ⟨ho, hR'⟩ := h m n hR
  rw [hx] at ho hR'
  cases hy : y.exec n with
  | mk o n' =>
    rw [hy] at ho hR'
    cases ho with
    | ok hab => exact ⟨n', by rw [hab], hR'⟩

/-- A run that agrees with one that failed fails with the same error. -/
theorem Agree.exec_error {x : Run ρ α} {y : Run σ β} {m m' : Machine ρ} {n : Machine σ} {e : Error}
    (h : Agree R V x y) (hR : R m n) (hx : x.exec m = (.error e, m')) :
    ∃ n', y.exec n = (.error e, n') ∧ R m' n' := by
  obtain ⟨ho, hR'⟩ := h m n hR
  rw [hx] at ho hR'
  cases hy : y.exec n with
  | mk o n' =>
    rw [hy] at ho hR'
    cases ho with
    | error _ => exact ⟨n', rfl, hR'⟩

/-! ## Composition -/

theorem agree_pure {a : α} {b : β} (h : V a b) : Agree R V (pure a) (pure b) :=
  fun _ _ hR => ⟨.ok h, hR⟩

theorem agree_throw (e : Error) : Agree R V (throw e) (throw e) := fun _ _ hR => ⟨.error e, hR⟩

theorem agree_ofExcept (e : Except Error α) : Agree R Eq (Run.ofExcept e) (Run.ofExcept e) :=
  fun _ _ hR => ⟨alikeOutcome_refl e, hR⟩

/-- Runs go on from where they have come, which may be related in a way of its own. -/
theorem AgreeAt.bind_at {S : Machine ρ → Machine σ → Prop} {x : Run ρ α} {y : Run σ β} {f : α → Run ρ γ}
    {g : β → Run σ δ} {m : Machine ρ} {n : Machine σ} (hxy : AgreeAt S V x y m n)
    (hfg : ∀ a b m' n', V a b → S m' n' → AgreeAt R W (f a) (g b) m' n')
    (hfailed : ∀ m' n', S m' n' → R m' n') : AgreeAt R W (x >>= f) (y >>= g) m n := by
  obtain ⟨ho, hS⟩ := hxy
  unfold AgreeAt
  rw [Run.exec_bind, Run.exec_bind]
  revert ho hS
  cases x.exec m with
  | mk o m' =>
    cases y.exec n with
    | mk o' n' =>
      intro ho hS
      cases ho with
      | ok hab => exact hfg _ _ m' n' hab hS
      | error e => exact ⟨.error e, hfailed m' n' hS⟩

/-- Where both runs have come to a value, what is known of them as they did is known in what follows. -/
theorem AgreeAt.bind_ok {x : Run ρ α} {y : Run σ β} {f : α → Run ρ γ} {g : β → Run σ δ}
    {m : Machine ρ} {n : Machine σ} (hxy : AgreeAt R V x y m n)
    (hfg : ∀ a b m' n', x.exec m = (.ok a, m') → y.exec n = (.ok b, n') → R m' n' →
      AgreeAt R W (f a) (g b) m' n') : AgreeAt R W (x >>= f) (y >>= g) m n := by
  obtain ⟨ho, hR⟩ := hxy
  unfold AgreeAt
  rw [Run.exec_bind, Run.exec_bind]
  cases hx : x.exec m with
  | mk o m' =>
    cases hy : y.exec n with
    | mk o' n' =>
      rw [hx, hy] at ho hR
      cases ho with
      | ok _ => exact hfg _ _ m' n' hx hy hR
      | error e => exact ⟨.error e, hR⟩

/-- Runs that come to related machines go on from there. -/
theorem AgreeAt.bind {x : Run ρ α} {y : Run σ β} {f : α → Run ρ γ} {g : β → Run σ δ}
    {m : Machine ρ} {n : Machine σ} (hxy : AgreeAt R V x y m n)
    (hfg : ∀ a b, V a b → Agree R W (f a) (g b)) : AgreeAt R W (x >>= f) (y >>= g) m n :=
  hxy.bind_at (fun a b m' n' hab hR => hfg a b hab m' n' hR) fun _ _ hR => hR

/-- **Runs one after another agree** if their parts do. -/
theorem agree_bind {x : Run ρ α} {y : Run σ β} {f : α → Run ρ γ} {g : β → Run σ δ}
    (hxy : Agree R V x y) (hfg : ∀ a b, V a b → Agree R W (f a) (g b)) :
    Agree R W (x >>= f) (y >>= g) :=
  fun m n hR => AgreeAt.bind (hxy m n hR) hfg

/-- Runs that agree on equal values go before runs that agree from there. -/
theorem agree_then {x : Run ρ α} {y : Run σ α} {f : α → Run ρ γ} {g : α → Run σ δ}
    (hxy : Agree R Eq x y) (hfg : ∀ a, Agree R W (f a) (g a)) : Agree R W (x >>= f) (y >>= g) :=
  agree_bind hxy fun a _ hab => hab ▸ hfg a

/-- Runs that test the same condition agree if their branches do. -/
theorem agree_ite {c : Prop} [Decidable c] {x x' : Run ρ α} {y y' : Run σ β}
    (hthen : c → Agree R V x y) (helse : ¬ c → Agree R V x' y') :
    Agree R V (if c then x else x') (if c then y else y') := by
  by_cases hc : c
  · rw [if_pos hc, if_pos hc]
    exact hthen hc
  · rw [if_neg hc, if_neg hc]
    exact helse hc

/-- A part of two runs that depends on a condition, before the rest of them. -/
theorem agree_when {c : Prop} [Decidable c] {x : Run ρ Unit} {x' : Run σ Unit} {y : Unit → Run ρ γ}
    {y' : Unit → Run σ δ} (hx : c → Agree R Eq x x') (hy : Agree R W (y ()) (y' ())) :
    Agree R W (if c then x >>= y else y ()) (if c then x' >>= y' else y' ()) :=
  agree_ite (fun hc => agree_then (hx hc) fun _ => hy) fun _ => hy

theorem AgreeAt.map {x : Run ρ α} {y : Run σ α} {m : Machine ρ} {n : Machine σ} (f : α → γ)
    (h : AgreeAt R Eq x y m n) : AgreeAt R Eq (f <$> x) (f <$> y) m n := by
  rw [map_eq_pure_bind, map_eq_pure_bind]
  exact h.bind fun a b (hab : a = b) => agree_pure (congrArg f hab)

theorem agree_map {x : Run ρ α} {y : Run σ α} (f : α → γ) (h : Agree R Eq x y) :
    Agree R Eq (f <$> x) (f <$> y) :=
  fun m n hR => AgreeAt.map f (h m n hR)

theorem agree_forM {f : α → Run ρ Unit} {g : α → Run σ Unit} {as : List α}
    (h : ∀ a ∈ as, Agree R Eq (f a) (g a)) : Agree R Eq (as.forM f) (as.forM g) := by
  induction as with
  | nil => exact agree_pure rfl
  | cons a as ih =>
    exact agree_then (h a List.mem_cons_self) fun _ => ih fun b hb => h b (List.mem_cons_of_mem _ hb)

theorem agree_filterMapM {f : α → Run ρ (Option γ)} {g : α → Run σ (Option γ)}
    (h : ∀ a, Agree R Eq (f a) (g a)) (as : List α) :
    Agree R Eq (as.filterMapM f) (as.filterMapM g) := by
  suffices hloop : ∀ found : List γ,
      Agree R Eq (List.filterMapM.loop f as found) (List.filterMapM.loop g as found) from hloop []
  induction as with
  | nil => exact fun _ => agree_pure rfl
  | cons a as ih =>
    intro found
    refine agree_then (h a) fun o => ?_
    cases o with
    | none => exact ih found
    | some c => exact ih (c :: found)

/-! ## Files and log -/

theorem agree_write (hR : Blind R) (level : Level) (part : Part) (message : String) :
    Agree R Eq (write level part message) (write level part message) :=
  fun _ _ h => ⟨.ok rfl, hR.noting h _⟩

theorem agree_ask (hR : Blind R) (f : FileSystem → Location → α) :
    Agree R Eq (Run.ask f) (Run.ask f) := by
  intro m n h
  rw [Run.exec_ask, Run.exec_ask, hR.files h, hR.workDir h]
  exact ⟨.ok rfl, h⟩

theorem agree_query (hR : Blind R) (f : FileSystem → Location → Except IoError α) :
    Agree R Eq (Run.query f) (Run.query f) := by
  intro m n h
  rw [Run.exec_query, Run.exec_query, hR.files h, hR.workDir h]
  cases f n.files n.workDir with
  | ok a => exact ⟨.ok rfl, h⟩
  | error e => exact ⟨.error _, h⟩

theorem agree_alter (hR : Blind R) (f : FileSystem → Location → Except IoError FileSystem) :
    Agree R Eq (Run.alter f) (Run.alter f) := by
  intro m n h
  have hf : f m.files m.workDir = f n.files n.workDir := by rw [hR.files h, hR.workDir h]
  rw [Run.exec_alter, Run.exec_alter, hf]
  cases f n.files n.workDir with
  | ok files => exact ⟨.ok rfl, hR.alter h files⟩
  | error e => exact ⟨.error _, h⟩

theorem agree_writeFile (hR : Blind R) (path : ByteString) (content : List UInt8) :
    Agree R Eq (Run.writeFile path content) (Run.writeFile path content) := by
  intro m n h
  have halter := fun content => agree_alter hR (fun fs here => fs.writeBytes here path content)
  unfold Run.writeFile
  rw [Run.exec_bind_ok (Run.exec_get m), Run.exec_bind_ok (Run.exec_get n), hR.writeFault h]
  cases n.writeFault path with
  | none => exact halter content m n h
  | some fault =>
    cases fault with
    | unopened e => exact agree_throw _ m n h
    | after written e => exact agree_then (halter (content.take written)) (fun _ => agree_throw _) m n h

theorem agree_makeDirs (hR : Blind R) (path : ByteString) :
    Agree R Eq (Run.makeDirs path) (Run.makeDirs path) := by
  intro m n h
  have hd : m.files.makeDirs m.workDir path = n.files.makeDirs n.workDir path := by
    rw [hR.files h, hR.workDir h]
  rw [Run.exec_makeDirs, Run.exec_makeDirs, hd]
  exact ⟨alikeOutcome_refl _, hR.alter h _⟩

end Checkout
