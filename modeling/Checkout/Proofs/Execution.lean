import Checkout.Machine

/-!
# Executing a run

`Run.exec` is the meaning of a `Run`: from a machine to an outcome and the machine afterwards. One
equation for each way to build a run says what it does, so that what follows never opens the monad.

Results:
* `exec_bind`: a run goes on where the run before it ended, and only if that run ended with a value;
* `exec_withPrivateDir`: the private directory is there for the body and gone after it.
-/

namespace Checkout

variable {ρ α β : Type}

/-! ## Machines that were only watched -/

/-- The machine with more records in its log. -/
def Machine.noting (m : Machine ρ) (records : List Record) : Machine ρ :=
  { m with log := m.log ++ records }

/-- The machine after one more pause. -/
def Machine.resting (m : Machine ρ) (d : Duration) : Machine ρ :=
  { m with pauses := m.pauses ++ [d] }

/-- The machine without its log and its pauses, which no command can see. -/
def Machine.silent (m : Machine ρ) : Machine ρ := { m with log := [], pauses := [] }

@[simp] theorem Machine.noting_nil (m : Machine ρ) : m.noting [] = m := by
  simp [noting]

@[simp] theorem Machine.noting_noting (m : Machine ρ) (xs ys : List Record) :
    (m.noting xs).noting ys = m.noting (xs ++ ys) := by
  simp [noting]

/-! ## Runs -/

namespace Run

/-- Executes a run on a machine. -/
def exec (x : Run ρ α) (m : Machine ρ) : Except Error α × Machine ρ := ExceptT.run x m

@[simp] theorem exec_pure (a : α) (m : Machine ρ) : (pure a : Run ρ α).exec m = (.ok a, m) := rfl

@[simp] theorem exec_throw (e : Error) (m : Machine ρ) :
    (throw e : Run ρ α).exec m = (.error e, m) := rfl

theorem exec_bind (x : Run ρ α) (f : α → Run ρ β) (m : Machine ρ) :
    (x >>= f).exec m =
      match x.exec m with
      | (.ok a, m') => (f a).exec m'
      | (.error e, m') => (.error e, m') := by
  simp only [exec, bind, ExceptT.run, ExceptT.bind, ExceptT.mk, StateT.bind]
  cases (x : StateT (Machine ρ) Id (Except Error α)) m with
  | mk o m' => cases o <;> rfl

theorem exec_bind_ok {x : Run ρ α} {f : α → Run ρ β} {m m' : Machine ρ} {a : α}
    (h : x.exec m = (.ok a, m')) : (x >>= f).exec m = (f a).exec m' := by
  rw [exec_bind, h]

theorem exec_bind_error {x : Run ρ α} {f : α → Run ρ β} {m m' : Machine ρ} {e : Error}
    (h : x.exec m = (.error e, m')) : (x >>= f).exec m = (.error e, m') := by
  rw [exec_bind, h]

theorem exec_bind_eq_ok {x : Run ρ α} {f : α → Run ρ β} {m m' : Machine ρ} {b : β}
    (h : (x >>= f).exec m = (.ok b, m')) :
    ∃ a m₁, x.exec m = (.ok a, m₁) ∧ (f a).exec m₁ = (.ok b, m') := by
  rw [exec_bind] at h
  cases hx : x.exec m with
  | mk o m₁ =>
    rw [hx] at h
    cases o with
    | error e => exact absurd h (by simp)
    | ok a => exact ⟨a, m₁, rfl, h⟩

theorem exec_bind_eq_error {x : Run ρ α} {f : α → Run ρ β} {m m' : Machine ρ} {e : Error}
    (h : (x >>= f).exec m = (.error e, m')) :
    x.exec m = (.error e, m') ∨ ∃ a m₁, x.exec m = (.ok a, m₁) ∧ (f a).exec m₁ = (.error e, m') := by
  rw [exec_bind] at h
  cases hx : x.exec m with
  | mk o m₁ =>
    rw [hx] at h
    cases o with
    | error e' =>
      cases h
      exact Or.inl rfl
    | ok a => exact Or.inr ⟨a, m₁, rfl, h⟩

theorem exec_map_ok {x : Run ρ α} {m m' : Machine ρ} {a : α} (h : x.exec m = (.ok a, m')) (f : α → β) :
    (f <$> x).exec m = (.ok (f a), m') := by
  rw [map_eq_pure_bind, exec_bind_ok h, exec_pure]

theorem exec_map_eq_ok {x : Run ρ α} {m m' : Machine ρ} {f : α → β} {b : β}
    (h : (f <$> x).exec m = (.ok b, m')) : ∃ a, x.exec m = (.ok a, m') ∧ f a = b := by
  rw [map_eq_pure_bind] at h
  obtain ⟨a, m₁, hx, hpure⟩ := exec_bind_eq_ok h
  cases hpure
  exact ⟨a, hx, rfl⟩

/-- A run with a part that depends on a condition ended with a value: the part is done or left out, and the
rest goes on from there. -/
theorem exec_when_eq_ok {c : Prop} [Decidable c] {x : Run ρ Unit} {y : Unit → Run ρ β}
    {m m' : Machine ρ} {b : β} (h : (if c then x >>= y else y ()).exec m = (.ok b, m')) :
    ∃ m₁, (if c then x else pure ()).exec m = (.ok (), m₁) ∧ (y ()).exec m₁ = (.ok b, m') := by
  by_cases hc : c
  · rw [if_pos hc] at h
    obtain ⟨⟨⟩, m₁, hx, hy⟩ := exec_bind_eq_ok h
    rw [if_pos hc]
    exact ⟨m₁, hx, hy⟩
  · rw [if_neg hc] at h
    rw [if_neg hc]
    exact ⟨m, rfl, h⟩

/-- A run that is known to end with a value, as far as can be decided. -/
theorem exec_eq_of_toOption {x : Run ρ α} {m : Machine ρ} {a : α}
    (h : (x.exec m).1.toOption = some a) : x.exec m = (.ok a, (x.exec m).2) := by
  cases hx : x.exec m with
  | mk o m' =>
    rw [hx] at h
    cases o with
    | error e => cases h
    | ok b =>
      cases h
      rfl

@[simp] theorem exec_get (m : Machine ρ) : (get : Run ρ (Machine ρ)).exec m = (.ok m, m) := rfl

@[simp] theorem exec_set (m n : Machine ρ) : (set n : Run ρ PUnit).exec m = (.ok ⟨⟩, n) := rfl

@[simp] theorem exec_modify (f : Machine ρ → Machine ρ) (m : Machine ρ) :
    (modify f : Run ρ PUnit).exec m = (.ok ⟨⟩, f m) := rfl

@[simp] theorem exec_lift (x : StateM (Machine ρ) α) (m : Machine ρ) :
    exec (ExceptT.lift x) m = (.ok (x m).1, (x m).2) := rfl

@[simp] theorem exec_write (level : Level) (part : Part) (message : String) (m : Machine ρ) :
    (write level part message : Run ρ Unit).exec m =
      (.ok (), m.noting [⟨level, part, message⟩]) := rfl

@[simp] theorem exec_ofExcept (e : Except Error α) (m : Machine ρ) :
    (ofExcept e : Run ρ α).exec m = (e, m) := rfl

theorem exec_query (f : FileSystem → Location → Except IoError α) (m : Machine ρ) :
    (query f).exec m =
      match f m.files m.workDir with
      | .ok a => (.ok a, m)
      | .error e => (.error (.io e), m) := by
  change ((f m.files m.workDir).mapError Error.io, m) = _
  cases f m.files m.workDir <;> rfl

@[simp] theorem exec_ask (f : FileSystem → Location → α) (m : Machine ρ) :
    (ask f).exec m = (.ok (f m.files m.workDir), m) := rfl

theorem exec_alter (f : FileSystem → Location → Except IoError FileSystem) (m : Machine ρ) :
    (alter f).exec m =
      match f m.files m.workDir with
      | .ok files => (.ok ⟨⟩, { m with files := files })
      | .error e => (.error (.io e), m) := by
  simp only [alter, exec_bind, exec_get, exec_ofExcept]
  cases f m.files m.workDir <;> rfl

/-- Writing a file that breaks off fails, and leaves what was written. -/
theorem exec_writeFile (path : ByteString) (content : List UInt8) (m : Machine ρ) :
    (writeFile path content).exec m =
      match m.writeFault path with
      | none => (alter fun fs here => fs.writeBytes here path content).exec m
      | some (.unopened e) => (.error (.io e), m)
      | some (.after written e) =>
        match m.files.writeBytes m.workDir path (content.take written) with
        | .ok files => (.error (.io e), { m with files := files })
        | .error e => (.error (.io e), m) := by
  simp only [writeFile, exec_bind, exec_get]
  cases m.writeFault path with
  | none => rfl
  | some fault =>
    cases fault with
    | unopened e => rfl
    | after written e =>
      dsimp only
      rw [exec_bind, exec_alter]
      cases m.files.writeBytes m.workDir path (content.take written) <;> rfl

theorem exec_makeDirs (path : ByteString) (m : Machine ρ) :
    (makeDirs path).exec m =
      (match (m.files.makeDirs m.workDir path).2 with
        | some e => .error (.io e)
        | none => .ok (),
       { m with files := (m.files.makeDirs m.workDir path).1 }) := by
  simp only [makeDirs, exec_bind, exec_get]
  cases m.files.makeDirs m.workDir path with
  | mk files failure => cases failure <;> rfl

/-- A list is gone through by runs that end with a value and leave the machine alone. -/
theorem exec_filterMapM_of_quiet {f : α → Run ρ (Option β)} {find : α → Option β} {as : List α}
    {m : Machine ρ} (h : ∀ a ∈ as, (f a).exec m = (.ok (find a), m)) :
    Run.exec (as.filterMapM f) m = (.ok (as.filterMap find), m) := by
  induction as with
  | nil => rfl
  | cons a as ih =>
    have hrest := ih fun b hb => h b (List.mem_cons_of_mem a hb)
    rw [List.filterMapM_cons, exec_bind_ok (h a List.mem_cons_self), List.filterMap_cons]
    cases find a with
    | none => exact hrest
    | some b => exact exec_bind_ok hrest

/-- The machine inside `withPrivateDir`: the private directory has been made. -/
def enterPrivateDir (m : Machine ρ) : Machine ρ :=
  { m with files := m.files.put m.scratch (.dir privateDirMode) }

theorem exec_withPrivateDir (body : ByteString → Run ρ α) (m : Machine ρ) :
    (withPrivateDir body).exec m =
      let r := (body (FileSystem.absolutePath m.scratch)).exec (enterPrivateDir m)
      (r.1, { r.2 with files := r.2.files.remove m.scratch }) := rfl

end Run

end Checkout
