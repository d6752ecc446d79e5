import Checkout.Proofs.Symlink.Resolution
import Checkout.Proofs.Symlink.Survey

/-!
# No path leaves an audited directory

If an audit passes, no relative path name without double dots leads from the directory out of it. The
audit looks at the links one by one and skips those that lead nowhere. That this is enough is an
induction along the path name: as long as only directories are entered, the way stays below the root;
and the first link on it is one that the audit has looked at, in a directory that it has entered, and
whose own resolution must have succeeded, as it is a part of the resolution at hand and passes through
no more links.

After a link the way goes on from wherever the link leads. That this is again below the root is what the
audit found. That everything from the root down to there can be walked without links (`Firm`) holds
because some walk has been there.

Results:
* `Firm.of_trail`: a trail leaves what lies below a location firm;
* `prefix_of_trail`: from a firm location below the root no trail without double dots leads out;
* `inside_of_audit_ok`: the soundness of the audit.
-/

namespace Checkout

open FileSystem (Asks Trail)

/-! ## Firm locations -/

/-- A directory was entered by a plain name, and not through a link. -/
structure Entered (fs : FileSystem) (admits : Location → Bool) (dir : Location) (name : ByteString) :
    Prop where
  plain : Pathname.Plain name
  asks : Asks fs admits dir name
  entry : ∃ e, fs.get? (dir ++ [name]) = some e ∧ e.isLink = false

/-- Everything below `root` on the way down to `here` can be entered. Where `here` does not lie below
`root` there is no such way. -/
def Firm (fs : FileSystem) (admits : Location → Bool) (root here : Location) : Prop :=
  ∀ dir name, root <+: dir → dir ++ [name] <+: here → Entered fs admits dir name

namespace Firm

variable {fs : FileSystem} {admits : Location → Bool} {root here l : Location} {n : Nat}
  {names : List ByteString} {name : ByteString}

theorem self (root : Location) : Firm fs admits root root := by
  intro dir name hroot hhere
  have h₁ := hroot.length_le
  have h₂ := hhere.length_le
  rw [List.length_append, List.length_singleton] at h₂
  omega

theorem nil (root : Location) : Firm fs admits root [] := by
  intro dir name _ hhere
  have h := hhere.length_le
  rw [List.length_append, List.length_singleton, List.length_nil] at h
  omega

theorem down (h : Firm fs admits root here) (hname : Entered fs admits here name) :
    Firm fs admits root (here ++ [name]) := by
  intro dir other hroot hhere
  rcases List.prefix_concat_iff.mp hhere with heq | hhere
  · obtain ⟨rfl, hcons⟩ := List.append_inj' heq rfl
    cases hcons
    exact hname
  · exact h dir other hroot hhere

theorem up (h : Firm fs admits root here) : Firm fs admits root here.dropLast :=
  fun dir name hroot hhere => h dir name hroot (hhere.trans (List.dropLast_prefix here))

theorem startOf (h : Firm fs admits root here) (path : ByteString) :
    Firm fs admits root (FileSystem.startOf here path) := by
  unfold FileSystem.startOf
  cases Pathname.isAbsolute path with
  | true => exact nil root
  | false => exact h

/-- **A trail leaves everything firm**, wherever it goes on its way. -/
theorem of_trail (h : Trail fs admits n here names l) (hplain : ∀ x ∈ names, Pathname.Plain x)
    (hfirm : Firm fs admits root here) : Firm fs admits root l := by
  induction h with
  | stop _ => exact hfirm
  | stay _ _ _ ih => exact ih (fun x hx => hplain x (List.mem_cons_of_mem _ hx)) hfirm
  | up _ _ _ ih => exact ih (fun x hx => hplain x (List.mem_cons_of_mem _ hx)) hfirm.up
  | down hasks he hlink _ ih =>
    have hname := hplain _ List.mem_cons_self
    exact ih (fun x hx => hplain x (List.mem_cons_of_mem _ hx)) (hfirm.down ⟨hname, hasks, _, he, hlink⟩)
  | @link n here l name target rest _ _ htarget _ ih =>
    refine ih (fun x hx => ?_) (hfirm.startOf target)
    rcases List.mem_append.mp hx with hx | hx
    · exact Pathname.plain_of_mem_parts (Pathname.isPathname_iff.mp htarget).2 hx
    · exact hplain x (List.mem_cons_of_mem _ hx)

theorem entered {ns : List ByteString} (h : Firm fs admits root (here ++ name :: ns))
    (hroot : root <+: here) : Entered fs admits here name :=
  h here name hroot ⟨ns, by rw [List.append_assoc, List.singleton_append]⟩

/-- A firm location below the root is walked to without a link. -/
theorem exists_trail {ns : List ByteString} {e : Entry} (h : Firm fs admits root (here ++ ns))
    (hroot : root <+: here) (he : fs.get? (here ++ ns) = some e) :
    Trail fs admits 0 here ns (here ++ ns) := by
  induction ns generalizing here with
  | nil =>
    rw [List.append_nil] at he ⊢
    exact .stop he
  | cons name ns ih =>
    have hname := h.entered hroot
    obtain ⟨e', he', hlink⟩ := hname.entry
    rw [List.append_cons] at h he ⊢
    exact .down hname.asks he' hlink (ih h (hroot.trans (List.prefix_append _ _)) he)

theorem plain {ns : List ByteString} (h : Firm fs admits root (here ++ ns)) (hroot : root <+: here) :
    ∀ x ∈ ns, Pathname.Plain x := by
  induction ns generalizing here with
  | nil =>
    intro x hx
    cases hx
  | cons name ns ih =>
    have hname := h.entered hroot
    rw [List.append_cons] at h
    intro x hx
    rcases List.mem_cons.mp hx with rfl | hx
    · exact hname.plain
    · exact ih h (hroot.trans (List.prefix_append _ _)) x hx

end Firm

/-! ## What a passed audit has seen -/

namespace SymlinkAudit

variable {fs : FileSystem} {here root : Location} {path : ByteString}

theorem survey_eq_nil {α β : Type} {find : α → Except Error (Option β) × List Record} {as : List α}
    (h : (survey find as).1 = .ok []) : ∀ a ∈ as, (find a).1 = .ok none := by
  induction as with
  | nil =>
    intro a ha
    cases ha
  | cons a rest ih =>
    unfold survey at h
    cases hf : find a with
    | mk outcome records =>
      rw [hf] at h
      cases outcome with
      | error e => cases h
      | ok found =>
        dsimp only at h
        cases hs : (survey find rest).1 with
        | error e =>
          rw [hs] at h
          cases h
        | ok more =>
          rw [hs] at h
          have happend : found.toList ++ more = [] := by injection h
          obtain ⟨hfound, hmore⟩ := List.append_eq_nil_iff.mp happend
          intro x hx
          rcases List.mem_cons.mp hx with rfl | hx
          · rw [hf]
            exact congrArg Except.ok (Option.toList_eq_nil_iff.mp hfound)
          · exact ih (hmore ▸ hs) x hx

theorem mem_listing {l : Location} {e : Entry} (he : fs.get? l = some e) (hroot : root <+: l)
    (hne : l ≠ root) : (l, e) ∈ fs.listing root := by
  have hnil : l ≠ [] := by
    rintro rfl
    exact hne (List.prefix_nil.mp hroot).symm
  have hmem : (l, e) ∈ fs.entries := by
    unfold FileSystem.get? at he
    rw [if_neg hnil] at he
    obtain ⟨front, back, hentries, -⟩ := List.lookup_eq_some_iff.mp he
    rw [hentries]
    exact List.mem_append_right _ List.mem_cons_self
  unfold FileSystem.listing FileSystem.below FileSystem.isBelow
  rw [List.mem_mergeSort, List.mem_filter]
  refine ⟨hmem, ?_⟩
  rw [Bool.and_eq_true, List.isPrefixOf_iff_prefix]
  exact ⟨hroot, bne_iff_ne.mpr hne.symm⟩

/-- **A passed audit has found every link below the root inside**, if it leads anywhere. -/
theorem links_inside_of_audited (h : audited fs here path = .ok ()) :
    ∃ root, fs.canonicalize here path = .ok root ∧
      ∀ l target t, fs.get? l = some (.link target) → root <+: l → l ≠ root →
        fs.canonicalize here (pathBelow root path l) = .ok t → root <+: t := by
  unfold audited scanned at h
  cases hc : fs.canonicalize here path with
  | error e =>
    rw [hc] at h
    cases h
  | ok root =>
    rw [hc] at h
    dsimp only at h
    cases hent : entered path with
    | error e =>
      rw [hent] at h
      cases h
    | ok _ =>
      rw [hent] at h
      dsimp only at h
      cases hs : (survey (sight fs here root path) (fs.listing root)).1 with
      | error e =>
        rw [hs] at h
        cases h
      | ok found =>
        rw [hs] at h
        cases found with
        | cons v rest => cases h
        | nil =>
          refine ⟨root, rfl, fun l target t hl hroot hne ht => ?_⟩
          have hseen := survey_eq_nil hs _ (mem_listing hl hroot hne)
          by_cases hin : root.isPrefixOf t = true
          · exact List.isPrefixOf_iff_prefix.mp hin
          · have hfate : fate fs here root (pathBelow root path l) = .outside t := by
              unfold fate
              rw [ht]
              exact if_neg hin
            unfold sight linkSight at hseen
            dsimp only at hseen
            rw [hfate] at hseen
            cases hseen

/-! ## Paths that stay inside -/

/-- What plain names below the root lead to is what an audit finds there. -/
theorem canonicalize_pathBelow {a b : Nat} {below : List ByteString} {name : ByteString} {l : Location}
    (hpath : Pathname.isPathname path = true)
    (hroot : Trail fs FileSystem.hasShortPath a (FileSystem.startOf here path) (Pathname.names path) root)
    (hplain : ∀ x ∈ below ++ [name], Pathname.Plain x)
    (hbelow : Trail fs FileSystem.hasShortPath b root (below ++ [name]) l)
    (hlinks : a + b ≤ FileSystem.maxLinks) :
    fs.canonicalize here (pathBelow root path (root ++ (below ++ [name]))) = .ok l := by
  obtain ⟨e, hwalk⟩ := FileSystem.walk_eq_entry_iff.mpr ⟨b, show b ≤ FileSystem.maxLinks - a by omega, hbelow⟩
  rw [canonicalize_pathBelow_eq hpath hroot (by omega) hplain, hwalk]
  rfl

/-- **No trail leads out.** From a firm location below the root, plain names without double dots lead to
a location below the root. The links of the trail and those that led to the root are no more than a
walk may pass through, so each link on the way is also found by the audit. -/
theorem prefix_of_trail {a b : Nat} {from_ t : Location} {names : List ByteString}
    (hpath : Pathname.isPathname path = true)
    (hroot : Trail fs FileSystem.hasShortPath a (FileSystem.startOf here path) (Pathname.names path) root)
    (haudit : ∀ l target t, fs.get? l = some (.link target) → root <+: l → l ≠ root →
      fs.canonicalize here (pathBelow root path l) = .ok t → root <+: t)
    (hplain : ∀ x ∈ names, Pathname.Plain x ∧ x ≠ "..")
    (hfirm : Firm fs FileSystem.hasShortPath root from_) (hin : root <+: from_)
    (h : Trail fs FileSystem.hasShortPath b from_ names t) (hlinks : a + b ≤ FileSystem.maxLinks) :
    root <+: t := by
  induction names generalizing b from_ with
  | nil =>
    cases h
    exact hin
  | cons name rest ih =>
    have hrestPlain : ∀ x ∈ rest, Pathname.Plain x ∧ x ≠ ".." :=
      fun x hx => hplain x (List.mem_cons_of_mem _ hx)
    obtain ⟨hname, hup⟩ := hplain name List.mem_cons_self
    cases h with
    | stay _ _ h => exact ih hrestPlain hfirm hin h hlinks
    | up heq _ _ => exact absurd heq hup
    | down hasks he hlink h =>
      exact ih hrestPlain (hfirm.down ⟨hname, hasks, _, he, hlink⟩) (hin.trans (List.prefix_append _ _))
        h hlinks
    | @link n _ _ _ target _ hasks he htarget h =>
      obtain ⟨i, j, l, hij, hi, hj⟩ := h.exists_of_append
      obtain ⟨below, rfl⟩ := hin
      -- The link by itself, reached from the root without any other link.
      have hlink : Trail fs FileSystem.hasShortPath (i + 1) (root ++ below) [name] l :=
        .link hasks he htarget (by rwa [List.append_nil])
      obtain ⟨e, hentry⟩ := hlink.exists_entry
      have hdown := (hfirm.exists_trail (List.prefix_refl root) hentry).append hlink
      have hbelowPlain : ∀ x ∈ below ++ [name], Pathname.Plain x := by
        intro x hx
        rcases List.mem_append.mp hx with hx | hx
        · exact hfirm.plain (List.prefix_refl root) x hx
        · exact List.mem_singleton.mp hx ▸ hname
      have hfound := canonicalize_pathBelow hpath hroot hbelowPlain hdown (by omega)
      rw [List.append_assoc] at he
      have hinside : root <+: l := by
        refine haudit _ target l he (List.prefix_append _ _) ?_ hfound
        intro heq
        have hlength := congrArg List.length heq
        simp only [List.length_append, List.length_singleton] at hlength
        omega
      have htargetPlain : ∀ x ∈ Pathname.parts target, Pathname.Plain x :=
        fun x hx => Pathname.plain_of_mem_parts (Pathname.isPathname_iff.mp htarget).2 hx
      have hfirm' : Firm fs FileSystem.hasShortPath root l :=
        Firm.of_trail hi htargetPlain (hfirm.startOf target)
      exact ih hrestPlain hfirm' hinside hj (by omega)

/-- **No path leaves an audited directory.** If the audit of a directory passes, then whatever a relative
path name without double dots leads to, seen from that directory, lies below what the directory's own
path name leads to. -/
theorem inside_of_audit_ok {ρ : Type} {m : Machine ρ} {p : ByteString} {t : Location}
    (haudit : ((audit path).exec m).1 = .ok ()) (hrel : Pathname.isAbsolute p = false)
    (hup : .parent ∉ Pathname.components p)
    (hp : m.files.canonicalize m.workDir (Pathname.join path p) = .ok t) :
    ∃ root, m.files.canonicalize m.workDir path = .ok root ∧ root <+: t := by
  rw [exec_audit] at haudit
  obtain ⟨root, hroot, hlinks⟩ := links_inside_of_audited haudit
  refine ⟨root, hroot, ?_⟩
  have hpath := (FileSystem.canonicalize_eq_ok_iff.mp hroot).1
  have hne := (Pathname.isPathname_iff.mp hpath).1
  obtain ⟨a, ha, htrail⟩ := FileSystem.exists_trail_names hroot
  obtain ⟨hjoin, n, hn, hwhole⟩ := FileSystem.canonicalize_eq_ok_iff.mp hp
  have hnul : Pathname.nul ∉ p.toList :=
    ((Pathname.noNul_join hne hrel).mp (Pathname.isPathname_iff.mp hjoin).2).2
  obtain ⟨tail, hparts, htail⟩ := Pathname.parts_eq (Pathname.join path p)
  rw [hparts, Pathname.names_join hne hrel, List.append_assoc,
    FileSystem.startOf_eq_of_isAbsolute_eq (Pathname.isAbsolute_join hne hrel)] at hwhole
  obtain ⟨i, j, l, hij, hi, hj⟩ := hwhole.exists_of_append
  obtain ⟨rfl, rfl⟩ := htrail.unique hi
  refine prefix_of_trail hpath htrail hlinks (fun x hx => ?_) (Firm.self root) (List.prefix_refl root) hj
    (by omega)
  rcases List.mem_append.mp hx with hx | hx
  · exact ⟨Pathname.plain_of_mem_names hnul hx, Pathname.not_parent_of_mem_names hup hx⟩
  · rcases htail with rfl | rfl
    · cases hx
    · rw [List.mem_singleton] at hx
      exact hx ▸ ⟨Pathname.plain_dot, by decide⟩

/-- Two links that pass through each other's directories. -/
theorem inside_of_audit_ok_of_two_links :
    let m : Machine Unit := { Machine.bare () with
      files := ⟨[(["work"], .dir 0o755), (["work", "a"], .dir 0o755), (["work", "a", "x"], .link "../b"),
        (["work", "b"], .link "a")]⟩ }
    ((audit ".").exec m).1 = .ok () ∧ Pathname.isAbsolute "b/x" = false ∧
      .parent ∉ Pathname.components "b/x" ∧
      m.files.canonicalize m.workDir (Pathname.join "." "b/x") = .ok ["work", "a"] ∧
      ∃ root, m.files.canonicalize m.workDir "." = .ok root ∧ root <+: [("work" : ByteString), "a"] := by
  intro m
  have hroot : m.files.canonicalize m.workDir "." = .ok ["work"] := by rfl
  have hlisting : m.files.listing ["work"] = ([(["work", "a"], .dir 0o755),
      (["work", "a", "x"], .link "../b"), (["work", "b"], .link "a")] : List (Location × Entry)) :=
    List.mergeSort_of_pairwise (by decide +kernel)
  have haudit : ((audit ".").exec m).1 = .ok () := by
    rw [exec_audit]
    unfold audited scanned
    rw [hroot]
    dsimp only
    rw [hlisting]
    rfl
  have hrel : Pathname.isAbsolute "b/x" = false := by rfl
  have hup : .parent ∉ Pathname.components "b/x" := by decide +kernel
  have hp : m.files.canonicalize m.workDir (Pathname.join "." "b/x") = .ok ["work", "a"] := by rfl
  exact ⟨haudit, hrel, hup, hp, inside_of_audit_ok haudit hrel hup hp⟩

end SymlinkAudit

end Checkout
