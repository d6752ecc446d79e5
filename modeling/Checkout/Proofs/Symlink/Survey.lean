import Checkout.Proofs.Execution
import Checkout.SymlinkAudit

/-!
# What an audit finds

An audit reads files and writes to the log, and that is all: what it finds and what it reports are
functions of the files and the working directory. `survey` collects both over a list of entries.

Results:
* `exec_scan`, `exec_audit`: the whole of what a scan and an audit do to a machine.
-/

namespace Checkout.SymlinkAudit

variable {ρ α β : Type}

/-- Findings over a list, in order, with the records on the way. The first failure ends them. -/
def survey (find : α → Except Error (Option β) × List Record) :
    List α → Except Error (List β) × List Record
  | [] => (.ok [], [])
  | a :: rest =>
    match find a with
    | (.error e, records) => (.error e, records)
    | (.ok found, records) =>
      ((survey find rest).1.map (found.toList ++ ·), records ++ (survey find rest).2)

/-- **Findings without a failure** are those of the entries, one after another. -/
theorem survey_eq_ok {find : α → Except Error (Option β) × List Record} {found : α → Option β}
    {as : List α} (h : ∀ a ∈ as, (find a).1 = .ok (found a)) :
    survey find as = (.ok (as.filterMap found), as.flatMap fun a => (find a).2) := by
  induction as with
  | nil => rfl
  | cons a rest ih =>
    have hrest := ih fun x hx => h x (List.mem_cons_of_mem _ hx)
    have hfirst : find a = (.ok (found a), (find a).2) := Prod.ext (h a List.mem_cons_self) rfl
    unfold survey
    rw [hfirst, hrest, List.flatMap_cons]
    cases hf : found a <;> simp [Except.map, hf]

/-- **A failure on the way** is the failure of the whole; the first one is. -/
theorem survey_eq_error {find : α → Except Error (Option β) × List Record} {as : List α}
    (h : ∃ a ∈ as, ∃ e, (find a).1 = .error e) :
    ∃ a ∈ as, ∃ e, (find a).1 = .error e ∧ (survey find as).1 = .error e := by
  induction as with
  | nil =>
    obtain ⟨a, ha, -⟩ := h
    cases ha
  | cons a rest ih =>
    unfold survey
    cases hf : find a with
    | mk outcome records =>
      cases outcome with
      | error e => exact ⟨a, List.mem_cons_self, e, by rw [hf], rfl⟩
      | ok found =>
        obtain ⟨x, hx, e, he⟩ := h
        have hrest : x ∈ rest := by
          rcases List.mem_cons.mp hx with rfl | hx
          · rw [hf] at he
            cases he
          · exact hx
        obtain ⟨y, hy, e', he', hs⟩ := ih ⟨x, hrest, e, he⟩
        refine ⟨y, List.mem_cons_of_mem _ hy, e', he', ?_⟩
        dsimp only
        rw [hs]
        rfl

/-- A list of runs that each only report is surveyed. -/
theorem exec_filterMapM {g : α → Run ρ (Option β)} {find : α → Except Error (Option β) × List Record}
    (h : ∀ a m, (g a).exec m = ((find a).1, m.noting (find a).2)) (l : List α) (m : Machine ρ) :
    Run.exec (l.filterMapM g) m = ((survey find l).1, m.noting (survey find l).2) := by
  induction l generalizing m with
  | nil => simp [survey]
  | cons a rest ih =>
    rw [List.filterMapM_cons, Run.exec_bind, h]
    unfold survey
    cases hf : find a with
    | mk outcome records =>
      cases outcome with
      | error e => rfl
      | ok found =>
        cases found with
        | none =>
          simp only [ih, Machine.noting_noting, Option.toList_none, List.nil_append]
          cases (survey find rest).1 <;> rfl
        | some b =>
          simp only [Run.exec_bind, ih]
          cases hs : (survey find rest).1 <;> simp [Except.map]

/-- What becomes known of the link with a path name. -/
def linkSight (fs : FileSystem) (here root : Location) (path : ByteString) :
    Option SymlinkViolation × List Record :=
  match fate fs here root path with
  | .broken => (none, [⟨.warn, .symlink, s!"Broken symlink found: {path}"⟩])
  | .inside => (none, [])
  | .outside target =>
    (some ⟨path, target⟩, [⟨.error, .symlink,
      s!"Symlink points outside repository: {path} -> {FileSystem.absolutePath target}"⟩])

/-- The failure to enter a directory, if its path name is too long. -/
def entered (path : ByteString) : Except Error Unit :=
  if FileSystem.maxPathBytes < path.length then
    .error (.io (.other s!"IO error for operation on {path}: {Errno.nameTooLong.message}"))
  else .ok ()

/-- What becomes known of an entry. -/
def sight (fs : FileSystem) (here root : Location) (path : ByteString) (x : Location × Entry) :
    Except Error (Option SymlinkViolation) × List Record :=
  match x.2 with
  | .link _ =>
    (.ok (linkSight fs here root (pathBelow root path x.1)).1,
      (linkSight fs here root (pathBelow root path x.1)).2)
  | .dir _ => ((entered (pathBelow root path x.1)).map fun _ => none, [])
  | _ => (.ok none, [])

theorem exec_report (fs : FileSystem) (here root : Location) (path : ByteString) (m : Machine ρ) :
    (report fs here root path).exec m =
      (.ok (linkSight fs here root path).1, m.noting (linkSight fs here root path).2) := by
  unfold report linkSight
  cases fate fs here root path with
  | broken => rfl
  | inside => rw [Machine.noting_nil]; rfl
  | outside target => rfl

theorem exec_enter (path : ByteString) (m : Machine ρ) : (enter path).exec m = (entered path, m) := by
  unfold enter entered
  split <;> rfl

theorem exec_visit (fs : FileSystem) (here root : Location) (path : ByteString) (x : Location × Entry)
    (m : Machine ρ) :
    (visit fs here root path x.1 x.2).exec m =
      ((sight fs here root path x).1, m.noting (sight fs here root path x).2) := by
  obtain ⟨l, e⟩ := x
  cases e with
  | link target => exact exec_report fs here root (pathBelow root path l) m
  | dir mode =>
    simp only [visit, sight, Run.exec_bind, exec_enter, Machine.noting_nil]
    cases entered (pathBelow root path l) <;> rfl
  | file content mode => simp [visit, sight]
  | device => simp [visit, sight]

/-- What a scan finds and reports. -/
def scanned (fs : FileSystem) (here : Location) (path : ByteString) :
    Except Error (List SymlinkViolation) × List Record :=
  match fs.canonicalize here path with
  | .error e => (.error (.io e), [])
  | .ok root =>
    match entered path with
    | .error e => (.error e, [])
    | .ok () => survey (sight fs here root path) (fs.listing root)

/-- **A scan only reads and reports.** -/
theorem exec_scan (path : ByteString) (m : Machine ρ) :
    (scan path).exec m =
      ((scanned m.files m.workDir path).1, m.noting (scanned m.files m.workDir path).2) := by
  simp only [scan, scanned, Run.exec_bind, Run.exec_query]
  cases hc : m.files.canonicalize m.workDir path with
  | error e => simp
  | ok root =>
    simp only [exec_enter]
    cases entered path with
    | error e => simp
    | ok _ => exact exec_filterMapM (fun x n => exec_visit _ _ _ _ x n) _ _

/-- How an audit ends. -/
def audited (fs : FileSystem) (here : Location) (path : ByteString) : Except Error Unit :=
  match (scanned fs here path).1 with
  | .error e => .error e
  | .ok found => if found.isEmpty then .ok () else .error (.symlinkEscape found.length)

/-- What an audit reports. -/
def auditRecords (fs : FileSystem) (here : Location) (path : ByteString) : List Record :=
  ⟨.info, .symlink, "Checking for symlinks pointing outside the repository"⟩ ::
    (scanned fs here path).2 ++
    if (audited fs here path).isOk then [⟨.info, .symlink, "Symlink check passed"⟩] else []

/-- **An audit only reads and reports.** -/
theorem exec_audit (path : ByteString) (m : Machine ρ) :
    (audit path).exec m =
      (audited m.files m.workDir path, m.noting (auditRecords m.files m.workDir path)) := by
  have hscan := exec_scan path
    (m.noting [⟨.info, .symlink, "Checking for symlinks pointing outside the repository"⟩])
  change _ = ((scanned m.files m.workDir path).1, _) at hscan
  unfold audit audited auditRecords audited
  rw [Run.exec_bind_ok (Run.exec_write _ _ _ _), Run.exec_bind, hscan]
  cases h : (scanned m.files m.workDir path).1 with
  | error e => simp [Except.isOk, Except.toBool, Machine.noting]
  | ok found =>
    cases found with
    | nil => simp [Except.isOk, Except.toBool, Machine.noting]
    | cons v rest => simp [Except.isOk, Except.toBool, Machine.noting]

end Checkout.SymlinkAudit
