import Checkout.Proofs.Symlink.Resolution
import Checkout.Proofs.Symlink.Survey
import Mathlib.Data.List.Perm.Basic

/-!
# What a scan finds

A scan enters every directory below the root and finds every link that leaves the root, each once. It ends
with a failure just if the path name of a directory is too long to be entered; nothing else stops it, neither
links that lead nowhere nor links that come back to themselves. In which order the directories give their
entries out does not matter, as each entry is looked at by itself.

Results:
* `scanned_of_entersAll`: a scan that enters everything finds what there is to find at each entry;
* `mem_filterMap_violation?`, `nodup_links`: that is the links that leave, each once;
* `scan_exact`: what a scan finds and how an audit ends.
-/

namespace Checkout.SymlinkAudit

open FileSystem (isBelow maxPathBytes maxNameBytes hasShortPath absolutePath Cyclic)

variable {ρ : Type} {m : Machine ρ} {fs : FileSystem} {here root l : Location} {path : ByteString}
  {x : Location × Entry} {v : SymlinkViolation} {mode : Nat}

/-! ## What there is to find -/

/-- The directory at the root and those below it can be entered by their path names. -/
def EntersAll (fs : FileSystem) (root : Location) (path : ByteString) : Prop :=
  ∀ l mode, fs.get? l = some (.dir mode) → root <+: l →
    (pathBelow root path l).length ≤ maxPathBytes

/-- There is a link below the root that leads out of it. -/
def Leaves (fs : FileSystem) (here root : Location) (path : ByteString) (v : SymlinkViolation) : Prop :=
  ∃ l target, fs.get? l = some (.link target) ∧ isBelow root l = true ∧ v.link = pathBelow root path l ∧
    fs.canonicalize here v.link = .ok v.target ∧ ¬ root <+: v.target

/-- What there is to find at an entry. -/
def violation? (fs : FileSystem) (here root : Location) (path : ByteString) (x : Location × Entry) :
    Option SymlinkViolation :=
  match x.2 with
  | .link _ => (linkSight fs here root (pathBelow root path x.1)).1
  | _ => none

/-- The error that is logged for a link that leaves. -/
def escapeRecord (v : SymlinkViolation) : Record :=
  ⟨.error, .symlink, s!"Symlink points outside repository: {v.link} -> {absolutePath v.target}"⟩

/-- The errors of a log. -/
def errors (records : List Record) : List Record := records.filter fun r => r.level = .error

theorem linkSight_fst_eq_some_iff :
    (linkSight fs here root path).1 = some v ↔
      v.link = path ∧ fs.canonicalize here path = .ok v.target ∧ ¬ root <+: v.target := by
  obtain ⟨link, target⟩ := v
  unfold linkSight fate
  cases hc : fs.canonicalize here path with
  | error e => simp
  | ok t =>
    by_cases hin : root <+: t
    · simp only [List.isPrefixOf_iff_prefix, hin, if_true, reduceCtorEq, false_iff]
      rintro ⟨-, heq, hout⟩
      cases heq
      exact hout hin
    · simp only [List.isPrefixOf_iff_prefix, hin, if_false, Option.some.injEq, SymlinkViolation.mk.injEq,
        Except.ok.injEq]
      constructor
      · rintro ⟨rfl, rfl⟩
        exact ⟨rfl, rfl, hin⟩
      · rintro ⟨rfl, rfl, -⟩
        exact ⟨rfl, rfl⟩

theorem violation?_eq_some_iff :
    violation? fs here root path x = some v ↔
      (∃ target, x.2 = .link target) ∧ v.link = pathBelow root path x.1 ∧
        fs.canonicalize here v.link = .ok v.target ∧ ¬ root <+: v.target := by
  obtain ⟨l, e⟩ := x
  cases e with
  | link target =>
    refine linkSight_fst_eq_some_iff.trans ?_
    constructor
    · rintro ⟨hlink, hleads⟩
      exact ⟨⟨target, rfl⟩, hlink, hlink ▸ hleads⟩
    · rintro ⟨-, hlink, hleads⟩
      exact ⟨hlink, hlink ▸ hleads⟩
  | file content mode => simp [violation?]
  | dir mode => simp [violation?]
  | device => simp [violation?]

/-- The errors that are logged at an entry are those for what is found there. -/
theorem errors_sight (x : Location × Entry) :
    errors (sight fs here root path x).2 = (violation? fs here root path x).toList.map escapeRecord := by
  obtain ⟨l, e⟩ := x
  cases e with
  | link target =>
    unfold sight violation? linkSight
    dsimp only
    cases fate fs here root (pathBelow root path l) <;> rfl
  | file content mode => rfl
  | dir mode => rfl
  | device => rfl

/-! ## Entries below a root -/

/-- Where nothing is too long to be entered, each entry gives what there is to find. -/
theorem sight_of_entersAll (here : Location) (hwell : fs.WellFormed) (henters : EntersAll fs root path)
    (hx : x ∈ fs.below root) :
    (sight fs here root path x).1 = .ok (violation? fs here root path x) := by
  obtain ⟨l, e⟩ := x
  obtain ⟨he, hbelow⟩ := hwell.mem_below_iff.mp hx
  cases e with
  | dir mode =>
    have hshort := henters l mode he (FileSystem.isBelow_iff.mp hbelow).1
    unfold sight entered violation?
    rw [if_neg (Nat.not_lt.mpr hshort)]
    rfl
  | link target => rfl
  | file content mode => rfl
  | device => rfl

/-- **A survey in whatever order** finds what there is to find, and logs an error for each. -/
theorem survey_of_entersAll (here : Location) (hwell : fs.WellFormed) (henters : EntersAll fs root path)
    {order : List (Location × Entry)} (horder : order.Perm (fs.below root)) :
    ∃ records, survey (sight fs here root path) order =
        (.ok (order.filterMap (violation? fs here root path)), records) ∧
      errors records = (order.filterMap (violation? fs here root path)).map escapeRecord := by
  have hfound := survey_eq_ok fun x hx => sight_of_entersAll here hwell henters (horder.mem_iff.mp hx)
  refine ⟨_, hfound, ?_⟩
  unfold errors
  rw [List.filter_flatMap, List.filterMap_eq_flatMap_toList, List.map_flatMap]
  exact congrArg (List.flatMap · order) (funext fun x => errors_sight x)

/-- What there is to find below a root is the links that leave it. -/
theorem mem_filterMap_violation? (hwell : fs.WellFormed) {order : List (Location × Entry)}
    (horder : order.Perm (fs.below root)) :
    v ∈ order.filterMap (violation? fs here root path) ↔ Leaves fs here root path v := by
  rw [List.mem_filterMap]
  constructor
  · rintro ⟨⟨l, e⟩, hx, hv⟩
    obtain ⟨⟨target, rfl⟩, hleads⟩ := violation?_eq_some_iff.mp hv
    obtain ⟨he, hbelow⟩ := hwell.mem_below_iff.mp (horder.mem_iff.mp hx)
    exact ⟨l, target, he, hbelow, hleads⟩
  · rintro ⟨l, target, he, hbelow, hleads⟩
    exact ⟨(l, .link target), horder.mem_iff.mpr (hwell.mem_below_iff.mpr ⟨he, hbelow⟩),
      violation?_eq_some_iff.mpr ⟨⟨target, rfl⟩, hleads⟩⟩

/-- Path names tell what is below a root apart. -/
theorem pathBelow_injective (hne : path ≠ "") {a b : Location} (ha : root <+: a) (hb : root <+: b)
    (hplain : ∀ name ∈ a ++ b, Pathname.Plain name) (h : pathBelow root path a = pathBelow root path b) :
    a = b := by
  obtain ⟨as, rfl⟩ := ha
  obtain ⟨bs, rfl⟩ := hb
  unfold pathBelow at h
  rw [List.drop_left, List.drop_left] at h
  have has := (Pathname.foldl_join_spec hne fun x (hx : x ∈ as) => hplain x (by simp [hx])).2.1
  have hbs := (Pathname.foldl_join_spec hne fun x (hx : x ∈ bs) => hplain x (by simp [hx])).2.1
  rw [h, hbs] at has
  rw [List.append_cancel_left has]

/-- **No link is found twice.** -/
theorem nodup_links (hwell : fs.WellFormed) (hnamed : fs.Named) (hne : path ≠ "")
    {order : List (Location × Entry)} (horder : order.Perm (fs.below root)) :
    ((order.filterMap (violation? fs here root path)).map SymlinkViolation.link).Nodup := by
  have hkeys : ((fs.below root).map Prod.fst).Nodup := hwell.1.sublist (List.filter_sublist.map _)
  have horder' : order.Pairwise fun a b => a.1 ≠ b.1 :=
    List.pairwise_map.mp ((horder.map Prod.fst).nodup_iff.mpr hkeys)
  rw [List.Nodup, List.pairwise_map, List.pairwise_filterMap]
  refine horder'.imp_of_mem fun {a b} ha hb hother v hv w hw hsame => hother ?_
  obtain ⟨-, hv, -⟩ := violation?_eq_some_iff.mp hv
  obtain ⟨-, hw, -⟩ := violation?_eq_some_iff.mp hw
  obtain ⟨hae, habelow⟩ := hwell.mem_below_iff.mp (horder.mem_iff.mp ha)
  obtain ⟨hbe, hbbelow⟩ := hwell.mem_below_iff.mp (horder.mem_iff.mp hb)
  refine pathBelow_injective hne (FileSystem.isBelow_iff.mp habelow).1 (FileSystem.isBelow_iff.mp hbbelow).1
    (fun name hname => ?_) (hv.symm.trans (hsame.trans hw))
  rcases List.mem_append.mp hname with hname | hname
  · exact (hnamed.location hae name hname).plain
  · exact (hnamed.location hbe name hname).plain

theorem pathBelow_self (root : Location) (path : ByteString) : pathBelow root path root = path := by
  unfold pathBelow
  rw [List.drop_length, List.foldl_nil]

/-- A failure at an entry is one of the system. -/
theorem exists_io_of_sight {e : Error} (h : (sight fs here root path x).1 = .error e) : ∃ io, e = .io io := by
  obtain ⟨l, entry⟩ := x
  cases entry with
  | dir mode =>
    unfold sight entered at h
    dsimp only at h
    split at h
    · cases h
      exact ⟨_, rfl⟩
    · cases h
  | link target => cases h
  | file content mode => cases h
  | device => cases h

/-! ## The whole of a scan -/

/-- The log of a scan that found something is an error for each link. -/
structure Found (m : Machine ρ) (root : Location) (path : ByteString) (found : List SymlinkViolation)
    (records : List Record) : Prop where
  mem_iff : ∀ v, v ∈ found ↔ Leaves m.files m.workDir root path v
  nodup : (found.map SymlinkViolation.link).Nodup
  errors : errors records = found.map escapeRecord

/-- **A scan that can enter everything** finds the links that leave, in whatever order it comes upon the
entries. -/
theorem found_of_entersAll (hwell : m.files.WellFormed) (hnamed : m.files.Named) (hne : path ≠ "")
    (henters : EntersAll m.files root path) {order : List (Location × Entry)}
    (horder : order.Perm (m.files.below root)) :
    ∃ records, (order.filterMapM fun (l, e) => visit m.files m.workDir root path l e).exec m =
        (.ok (order.filterMap (violation? m.files m.workDir root path)), m.noting records) ∧
      Found m root path (order.filterMap (violation? m.files m.workDir root path)) records := by
  obtain ⟨records, hsurvey, herrors⟩ := survey_of_entersAll m.workDir hwell henters horder
  refine ⟨records, ?_, fun v => mem_filterMap_violation? hwell horder,
    nodup_links hwell hnamed hne horder, herrors⟩
  have hexec := exec_filterMapM (fun x n => exec_visit m.files m.workDir root path x n) order m
  rw [hsurvey] at hexec
  exact hexec

section Scan

variable (hroot : m.files.canonicalize m.workDir path = .ok root) (hdir : m.files.get? root = some (.dir mode))

include hroot hdir

/-- **A scan that cannot enter a directory** fails, and so does the audit. -/
theorem exec_scan_of_not_entersAll (hwell : m.files.WellFormed) (hlong : ¬ EntersAll m.files root path) :
    ∃ e, ((scan path).exec m).1 = .error (.io e) ∧ ((audit path).exec m).1 = .error (.io e) := by
  have hfails : ∃ e, (scanned m.files m.workDir path).1 = .error (.io e) := by
    unfold scanned
    rw [hroot]
    dsimp only
    by_cases hself : maxPathBytes < path.length
    · unfold entered
      rw [if_pos hself]
      exact ⟨_, rfl⟩
    · have hentered : entered path = .ok () := if_neg hself
      rw [hentered]
      dsimp only
      obtain ⟨l, bits, he, hfront, hsize⟩ : ∃ l bits, m.files.get? l = some (.dir bits) ∧ root <+: l ∧
          maxPathBytes < (pathBelow root path l).length := by
        simpa only [EntersAll, not_forall, Nat.not_le, exists_prop] using hlong
      have hbelow : isBelow root l = true := by
        refine FileSystem.isBelow_iff.mpr ⟨hfront, ?_⟩
        rintro rfl
        rw [pathBelow_self] at hsize
        exact hself hsize
      have hmem : (l, Entry.dir bits) ∈ m.files.listing root :=
        List.mem_mergeSort.mpr (hwell.mem_below_iff.mpr ⟨he, hbelow⟩)
      have hstop : ∃ e, (sight m.files m.workDir root path (l, .dir bits)).1 = .error e := by
        unfold sight entered
        rw [if_pos hsize]
        exact ⟨_, rfl⟩
      obtain ⟨x, -, e, hx, hwhole⟩ := survey_eq_error ⟨_, hmem, hstop⟩
      obtain ⟨io, rfl⟩ := exists_io_of_sight hx
      exact ⟨io, hwhole⟩
  obtain ⟨e, he⟩ := hfails
  refine ⟨e, ?_, ?_⟩
  · rw [exec_scan, he]
  · rw [exec_audit]
    unfold audited
    rw [he]

/-- **A scan that can enter everything** finds the links that leave. -/
theorem exec_scan_of_entersAll (hwell : m.files.WellFormed) (hnamed : m.files.Named)
    (henters : EntersAll m.files root path) :
    ∃ records, scanned m.files m.workDir path =
        (.ok ((m.files.listing root).filterMap (violation? m.files m.workDir root path)), records) ∧
      Found m root path ((m.files.listing root).filterMap (violation? m.files m.workDir root path))
        records := by
  have hne := (Pathname.isPathname_iff.mp (FileSystem.canonicalize_eq_ok_iff.mp hroot).1).1
  have horder : (m.files.listing root).Perm (m.files.below root) := List.mergeSort_perm _ _
  obtain ⟨records, hsurvey, herrors⟩ := survey_of_entersAll m.workDir hwell henters horder
  have hentered : entered path = .ok () := by
    have hself := henters root mode hdir (List.prefix_refl root)
    rw [pathBelow_self] at hself
    exact if_neg (Nat.not_lt.mpr hself)
  refine ⟨records, ?_, fun v => mem_filterMap_violation? hwell horder,
    nodup_links hwell hnamed hne horder, herrors⟩
  unfold scanned
  rw [hroot]
  dsimp only
  rw [hentered]
  exact hsurvey

end Scan

theorem hasShortPath_of_entersAll (hdir : fs.get? root = some (.dir mode))
    (henters : EntersAll fs root (absolutePath root)) : hasShortPath root = true := by
  have hself := henters root mode hdir (List.prefix_refl root)
  rw [pathBelow_self] at hself
  exact decide_eq_true hself

/-! ## Links that come back, siblings, and other path names of the root -/

/-- Every location below a root is under a last name. -/
theorem exists_below (h : isBelow root l = true) : ∃ below name, l = root ++ (below ++ [name]) := by
  obtain ⟨⟨more, rfl⟩, hother⟩ := FileSystem.isBelow_iff.mp h
  rcases List.eq_nil_or_concat more with rfl | ⟨below, name, rfl⟩
  · exact absurd (List.append_nil root) hother
  · exact ⟨below, name, by rw [List.concat_eq_append]⟩

/-- **A link that comes back to itself is not found.** -/
theorem not_leaves_of_cyclic {dir : Location} {name target : ByteString} (hwell : fs.WellFormed)
    (hnamed : fs.Named) (hroot : fs.canonicalize here path = .ok root)
    (he : fs.get? (dir ++ [name]) = some (.link target)) (hbelow : isBelow root (dir ++ [name]) = true)
    (hcyclic : Cyclic fs hasShortPath dir target) (hv : Leaves fs here root path v) :
    v.link ≠ pathBelow root path (dir ++ [name]) := by
  intro hlink
  obtain ⟨l, -, -, -, -, hleads, -⟩ := hv
  obtain ⟨below, last, hl⟩ := exists_below hbelow
  rw [← List.append_assoc] at hl
  obtain ⟨rfl, hlast⟩ := List.append_inj' hl rfl
  cases hlast
  obtain ⟨hne, -⟩ := Pathname.isPathname_iff.mp (FileSystem.canonicalize_eq_ok_iff.mp hroot).1
  obtain ⟨a, -, hfirst⟩ := FileSystem.exists_trail_names hroot
  have hordinary := hnamed.location he
  have hplain : ∀ x ∈ below ++ [name], Pathname.Plain x := fun x hx =>
    (hordinary x (by simpa using Or.inr hx)).plain
  obtain ⟨-, n, -, htrail⟩ := FileSystem.canonicalize_eq_ok_iff.mp (hlink ▸ hleads)
  unfold pathBelow at htrail
  rw [List.append_assoc, List.drop_left,
    FileSystem.startOf_eq_of_isAbsolute_eq (Pathname.foldl_join_spec hne hplain).2.2.1,
    Pathname.parts_foldl_join hne hplain] at htrail
  obtain ⟨i, j, t, -, hi, hj⟩ := htrail.exists_of_append
  obtain ⟨-, rfl⟩ := hi.unique hfirst
  obtain ⟨i', j', dir, -, hdown, hlast⟩ := hj.exists_of_append
  obtain rfl := hwell.eq_of_trail hnamed he hdown
  -- The last name is the one of the link, so the trail goes on along its target.
  cases hlast with
  | stay hname _ _ => exact (hordinary name (by simp)).notCurrent hname
  | up hname _ _ => exact (hordinary name (by simp)).notParent hname
  | down _ he' hplain' _ =>
    rw [he] at he'
    cases he'
    cases hplain'
  | link _ he' _ hrest =>
    rw [he] at he'
    cases he'
    rw [List.append_nil] at hrest
    exact hcyclic.not_trail hrest

/-- **A sibling whose name begins like the name of the root** is outside. -/
theorem not_prefix_sibling {parent rest : Location} {name more : ByteString} (hmore : more ≠ "") :
    ¬ parent ++ [name] <+: parent ++ (name ++ more) :: rest := by
  intro hfront
  rw [List.prefix_append_right_inj, List.cons_prefix_cons] at hfront
  have hsize := congrArg ByteString.length hfront.1
  rw [ByteString.length_append] at hsize
  exact hmore (ByteString.length_eq_zero_iff.mp (by omega))

/-- The limits of the system are kept: no path name or name is too long, and the path names of the links do not
pass through too many links. -/
structure WithinLimits (fs : FileSystem) (here root : Location) (path : ByteString) : Prop where
  enters : EntersAll fs root path
  real : EntersAll fs root (absolutePath root)
  names : ∀ name ∈ root, name.length ≤ maxNameBytes
  links : ∀ l target, fs.get? l = some (.link target) → isBelow root l = true →
    fs.canonicalize here (pathBelow root path l) ≠ .error (.os .tooManyLinks)

theorem map_target_linkSight {other : ByteString} (h : fs.canonicalize here other = fs.canonicalize here path) :
    (linkSight fs here root other).1.map SymlinkViolation.target =
      (linkSight fs here root path).1.map SymlinkViolation.target := by
  unfold linkSight fate
  rw [h]
  cases fs.canonicalize here path with
  | error e => rfl
  | ok t => by_cases hin : root.isPrefixOf t = true <;> simp [hin]

/-- **The real path of the root** gives the same targets, entry by entry. -/
theorem map_target_violation?_absolutePath (hwell : fs.WellFormed) (hnamed : fs.Named)
    (hroot : fs.canonicalize here path = .ok root) (hdir : fs.get? root = some (.dir mode))
    (hlimits : WithinLimits fs here root path) (hx : x ∈ fs.below root) :
    (violation? fs here root (absolutePath root) x).map SymlinkViolation.target =
      (violation? fs here root path x).map SymlinkViolation.target := by
  obtain ⟨l, e⟩ := x
  obtain ⟨he, hbelow⟩ := hwell.mem_below_iff.mp hx
  cases e with
  | link target =>
    have hfew := hlimits.links l target he hbelow
    obtain ⟨below, name, rfl⟩ := exists_below hbelow
    have hplain : ∀ x ∈ below ++ [name], Pathname.Plain x := fun x hx =>
      (hnamed.location he x (List.mem_append_right _ hx)).plain
    have hrootPlain : ∀ x ∈ root, Pathname.Plain x := fun x hx => (hnamed.location hdir x hx).plain
    have htrail := FileSystem.trail_absolutePath here (hwell.reached hnamed hdir hlimits.names)
      (hasShortPath_of_entersAll hdir hlimits.real) hdir rfl
    exact map_target_linkSight (canonicalize_pathBelow_absolutePath hroot
      (FileSystem.isPathname_absolutePath hrootPlain) htrail hplain hfew)
  | file content mode => rfl
  | dir mode => rfl
  | device => rfl

/-- The first line that an audit logs. -/
def startRecord : Record := ⟨.info, .symlink, "Checking for symlinks pointing outside the repository"⟩

/-- The last line that an audit logs if it passes. -/
def passedRecord : Record := ⟨.info, .symlink, "Symlink check passed"⟩

theorem exec_audit_of_scanned {found : List SymlinkViolation} {records : List Record}
    (h : scanned m.files m.workDir path = (.ok found, records)) :
    (audit path).exec m = (if found = [] then .ok () else .error (.symlinkEscape found.length),
      m.noting (startRecord :: records ++ if found = [] then [passedRecord] else [])) := by
  rw [exec_audit]
  unfold auditRecords audited
  rw [h]
  cases found <;> rfl

/-- **What a scan finds.** Of the directory that a path name leads to, a scan finds the links below it that
lead somewhere, and not below it; each once, and whatever the order in which it comes upon the entries. For each
an error is logged, and the audit fails with their number, or passes if there are none. A link that comes back
to itself is not found, a link to a sibling is, however the name of the sibling begins; and the real path of the
directory gives the same targets and the same end of the audit, if no limit of the system is met. Only if the
path name of a directory is too long to be entered do scan and audit fail. -/
theorem scan_exact (hwell : m.files.WellFormed) (hnamed : m.files.Named)
    (hroot : m.files.canonicalize m.workDir path = .ok root) (hdir : m.files.get? root = some (.dir mode)) :
    (¬ EntersAll m.files root path →
      ∃ e, ((scan path).exec m).1 = .error (.io e) ∧ ((audit path).exec m).1 = .error (.io e)) ∧
    (EntersAll m.files root path → ∃ found records,
      (scan path).exec m = (.ok found, m.noting records) ∧
      Found m root path found records ∧
      (∀ order : List (Location × Entry), order.Perm (m.files.below root) → ∃ found' records',
        (order.filterMapM fun (l, e) => visit m.files m.workDir root path l e).exec m =
          (.ok found', m.noting records') ∧ Found m root path found' records' ∧ found'.Perm found) ∧
      (audit path).exec m = (if found = [] then .ok () else .error (.symlinkEscape found.length),
        m.noting (startRecord :: records ++ if found = [] then [passedRecord] else [])) ∧
      (∀ dir name target, m.files.get? (dir ++ [name]) = some (.link target) →
        isBelow root (dir ++ [name]) = true → Cyclic m.files hasShortPath dir target →
        ∀ v ∈ found, v.link ≠ pathBelow root path (dir ++ [name])) ∧
      (∀ l target parent name (more : ByteString) rest,
        m.files.get? l = some (.link target) → isBelow root l = true →
        root = parent ++ [name] → more ≠ "" →
        m.files.canonicalize m.workDir (pathBelow root path l) = .ok (parent ++ (name ++ more) :: rest) →
        ⟨pathBelow root path l, parent ++ (name ++ more) :: rest⟩ ∈ found) ∧
      (WithinLimits m.files m.workDir root path → ∃ found',
        ((scan (absolutePath root)).exec m).1 = .ok found' ∧
        found'.map SymlinkViolation.target = found.map SymlinkViolation.target ∧
        ((audit (absolutePath root)).exec m).1 = ((audit path).exec m).1)) := by
  have hne := (Pathname.isPathname_iff.mp (FileSystem.canonicalize_eq_ok_iff.mp hroot).1).1
  have hlisting : (m.files.listing root).Perm (m.files.below root) := List.mergeSort_perm _ _
  refine ⟨exec_scan_of_not_entersAll hroot hdir hwell, fun henters => ?_⟩
  obtain ⟨records, hscan, hfound⟩ := exec_scan_of_entersAll hroot hdir hwell hnamed henters
  refine ⟨_, records, by rw [exec_scan, hscan], hfound, fun order horder => ?_, exec_audit_of_scanned hscan,
    fun dir name target he hbelow hcyclic v hv => ?_,
    fun l target parent name more rest he hbelow hparent hmore hleads => ?_, fun hlimits => ?_⟩
  · obtain ⟨records', hexec, hfound'⟩ := found_of_entersAll hwell hnamed hne henters horder
    exact ⟨_, records', hexec, hfound', (horder.trans hlisting.symm).filterMap _⟩
  · exact not_leaves_of_cyclic hwell hnamed hroot he hbelow hcyclic ((hfound.mem_iff v).mp hv)
  · exact (hfound.mem_iff _).mpr ⟨l, target, he, hbelow, rfl, hleads, hparent ▸ not_prefix_sibling hmore⟩
  · have hreal := FileSystem.canonicalize_absolutePath m.workDir
      (hwell.reached hnamed hdir hlimits.names) (hasShortPath_of_entersAll hdir hlimits.real) hdir rfl
    obtain ⟨records', hscan', -⟩ := exec_scan_of_entersAll hreal hdir hwell hnamed hlimits.real
    have htargets : ((m.files.listing root).filterMap
          (violation? m.files m.workDir root (absolutePath root))).map SymlinkViolation.target =
        ((m.files.listing root).filterMap (violation? m.files m.workDir root path)).map
          SymlinkViolation.target := by
      rw [List.map_filterMap, List.map_filterMap]
      exact List.filterMap_congr fun x hx =>
        map_target_violation?_absolutePath hwell hnamed hroot hdir hlimits (hlisting.mem_iff.mp hx)
    refine ⟨_, by rw [exec_scan, hscan'], htargets, ?_⟩
    have hlength := congrArg List.length htargets
    rw [List.length_map, List.length_map] at hlength
    rw [exec_audit_of_scanned hscan, exec_audit_of_scanned hscan']
    simp only [← List.length_eq_zero_iff, hlength]

theorem entersAll_of_entries (hroot : root ≠ [])
    (h : ∀ x ∈ fs.entries, x.2.isDir = true → root <+: x.1 →
      (pathBelow root path x.1).length ≤ maxPathBytes) : EntersAll fs root path := by
  intro l mode he hfront
  have hl : l ≠ [] := by
    rintro rfl
    exact hroot (List.prefix_nil.mp hfront)
  exact h _ (FileSystem.mem_of_get? hl he) rfl hfront

/-- A directory under another name, with a link to a sibling whose name begins alike and a link to itself. -/
theorem scan_exact_of_sibling :
    let m : Machine Unit := { Machine.bare () with
      files := ⟨[(["work"], .dir 0o755), (["work", "repo"], .dir 0o755), (["work", "repo-other"], .dir 0o755),
        (["work", "repo", "src"], .dir 0o755), (["work", "repo", "src", "next"], .link "../../repo-other"),
        (["work", "repo", "loop"], .link "loop"), (["work", "alias"], .link "repo")]⟩ }
    m.files.WellFormed ∧ m.files.Named ∧ m.files.canonicalize m.workDir "alias" = .ok ["work", "repo"] ∧
      m.files.get? ["work", "repo"] = some (.dir 0o755) ∧ EntersAll m.files ["work", "repo"] "alias" ∧
      ∃ found, ((scan "alias").exec m).1 = .ok found ∧
        ⟨"alias/src/next", ["work", "repo-other"]⟩ ∈ found ∧ ∀ v ∈ found, v.link ≠ "alias/loop" := by
  intro m
  have hwell : m.files.WellFormed := by decide
  have hnamed : m.files.Named := by decide
  have hroot : m.files.canonicalize m.workDir "alias" = .ok ["work", "repo"] := by rfl
  have hdir : m.files.get? ["work", "repo"] = some (.dir 0o755) := by rfl
  have henters : EntersAll m.files ["work", "repo"] "alias" :=
    entersAll_of_entries (by decide) (by decide +kernel)
  have hcyclic : Cyclic m.files hasShortPath ["work", "repo"] "loop" := ⟨[], .single (by rfl)⟩
  obtain ⟨-, hscan⟩ := scan_exact hwell hnamed hroot hdir
  obtain ⟨found, records, hfound, -, -, -, hcycle, hsibling, -⟩ := hscan henters
  have hnext := hsibling ["work", "repo", "src", "next"] "../../repo-other" ["work"] "repo" "-other" [] (by rfl)
    (by decide) rfl (by decide) (by rfl)
  refine ⟨hwell, hnamed, hroot, hdir, henters, found, by rw [hfound], hnext, fun v hv => ?_⟩
  exact hcycle ["work", "repo"] "loop" "loop" (by rfl) (by decide) hcyclic v hv

/-! ## Path names with many slashes -/

/-- A path name with slashes at its end. -/
def slashed (path : ByteString) (n : Nat) : ByteString :=
  ByteString.ofList (path.toList ++ List.replicate n Pathname.slash)

theorem slashed_succ (path : ByteString) (n : Nat) : slashed path (n + 1) = slashed path n ++ "/" := by
  apply ByteString.toList_inj.mp
  simp [slashed, List.replicate_succ']

theorem length_slashed (path : ByteString) (n : Nat) :
    (slashed path n).length = path.length + n := by
  induction n with
  | zero => simp [slashed, ByteString.length]
  | succ n ih =>
    rw [slashed_succ, ByteString.length_append, ih]
    rfl

theorem names_slashed (path : ByteString) (n : Nat) :
    Pathname.names (slashed path n) = Pathname.names path := by
  induction n with
  | zero => simp [slashed]
  | succ n ih =>
    rw [← ih]
    unfold slashed
    rw [List.replicate_succ', ← List.append_assoc, Pathname.names_ofList_slash]

theorem isPathname_slashed (h : Pathname.isPathname path = true) (n : Nat) :
    Pathname.isPathname (slashed path n) = true := by
  obtain ⟨hne, hnul⟩ := Pathname.isPathname_iff.mp h
  refine Pathname.isPathname_iff.mpr ⟨fun hempty => hne ?_, by simp [slashed, hnul]⟩
  have hlist := congrArg ByteString.toList hempty
  rw [slashed, ByteString.toList_ofList] at hlist
  exact ByteString.toList_eq_nil_iff.mp (List.append_eq_nil_iff.mp hlist).1

theorem isAbsolute_slashed (hne : path ≠ "") (n : Nat) :
    Pathname.isAbsolute (slashed path n) = Pathname.isAbsolute path := by
  unfold Pathname.isAbsolute slashed
  rw [ByteString.toList_ofList,
    List.head?_append_of_ne_nil _ fun hnil => hne (ByteString.toList_eq_nil_iff.mp hnil)]

theorem endsWithSlash_slashed (path : ByteString) (n : Nat) :
    Pathname.endsWithSlash (slashed path (n + 1)) = true := by
  simp [Pathname.endsWithSlash, slashed_succ]

/-- **A directory without links can be too deep to be scanned**: here by its path name. -/
theorem scan_fails_without_links :
    let m : Machine Unit := { Machine.bare () with
      files := ⟨[(["work"], .dir 0o755), (["work", "out"], .dir 0o755),
        (["work", "out", "directory"], .dir 0o755)]⟩ }
    let path := slashed "out" 4090
    m.files.WellFormed ∧ m.files.Named ∧ m.files.canonicalize m.workDir path = .ok ["work", "out"] ∧
      m.files.get? ["work", "out"] = some (.dir 0o755) ∧
      (∀ v, ¬ Leaves m.files m.workDir ["work", "out"] path v) ∧
      ∃ e, ((scan path).exec m).1 = .error (.io e) ∧ ((audit path).exec m).1 = .error (.io e) := by
  intro m path
  have hwell : m.files.WellFormed := by decide
  have hnamed : m.files.Named := by decide
  have hsizes : ("out" : ByteString).length = 3 ∧ ("directory" : ByteString).length = 9 := ⟨rfl, rfl⟩
  have hsize : path.length = 4093 := by rw [length_slashed, hsizes.1]
  have hpath : Pathname.isPathname path = true := isPathname_slashed (by decide) 4090
  have hrelative : Pathname.isAbsolute path = false := isAbsolute_slashed (by decide) 4090
  have hends : Pathname.endsWithSlash path = true := endsWithSlash_slashed "out" 4089
  have hnames : Pathname.names path = [("out" : ByteString)] := names_slashed "out" 4090
  clear_value path
  have hroot : m.files.canonicalize m.workDir path = .ok ["work", "out"] := by
    rw [FileSystem.canonicalize_of_isPathname hpath]
    unfold FileSystem.startOf Pathname.parts
    rw [hrelative, hends, hnames]
    rfl
  have hlong : ¬ EntersAll m.files ["work", "out"] path := by
    intro henters
    have hshort := henters ["work", "out", "directory"] 0o755 (by rfl) (by decide)
    have hjoin : pathBelow ["work", "out"] path ["work", "out", "directory"] = path ++ "directory" := by
      have hbelow : (["work", "out", "directory"] : Location).drop (["work", "out"] : Location).length =
          [("directory" : ByteString)] := by rfl
      unfold pathBelow Pathname.join
      rw [hbelow, List.foldl_cons, List.foldl_nil, if_neg (by decide), if_pos (Or.inr hends)]
    rw [hjoin, ByteString.length_append, hsize, hsizes.2] at hshort
    exact absurd hshort (by decide)
  refine ⟨hwell, hnamed, hroot, by rfl, ?_, exec_scan_of_not_entersAll hroot (by rfl) hwell hlong⟩
  rintro v ⟨l, target, hl, -⟩
  have hmem := FileSystem.mem_of_get?_link hl
  simp [m] at hmem

end Checkout.SymlinkAudit
