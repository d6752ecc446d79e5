import Checkout.Proofs.FileSystem.Removal
import Checkout.Proofs.FileSystem.Sight

/-!
# A location set aside

Something stands at a location, with more below it, and nobody but its owner has to do with it: no name that
anyone else asks for is the last one of its own. Then what the others do is the same with it and without it;
and it stays what it is, however they change the rest.

Results:
* `see_aside`: what is seen without the location is what is left when it is removed;
* `Sheltered.grown`, `Sheltered.of_same`: changes around the location leave it alone;
* `Sheltered.locate`: what its path names lead to is still found;
* `Beside.makeDirs`, `Beside.createAll`, `Beside.removeEntry`: changes beside it are those made without it.
-/

namespace Checkout

/-- No name in the path name is the last one of the location. -/
def Pathname.Avoids (l : Location) (path : ByteString) : Prop :=
  ∀ name ∈ Pathname.names path, l.getLast? ≠ some name

instance (l : Location) (path : ByteString) : Decidable (Pathname.Avoids l path) :=
  inferInstanceAs (Decidable (∀ name ∈ Pathname.names path, l.getLast? ≠ some name))

/-- A location that can be set aside: it has a name of its own. -/
structure Apart (P : Location) : Prop where
  ne_nil : P ≠ []
  notCurrent : P.getLast? ≠ some ("." : ByteString)

/-- Only what is not at a location or below it is seen. -/
def View.aside {P : Location} (hP : Apart P) : View where
  hidden l := P.isPrefixOf l
  content := id
  admits name := P.getLast? ≠ some name
  root := by
    cases P with
    | nil => exact absurd rfl hP.ne_nil
    | cons name rest => rfl
  up l h := by
    rw [← Bool.not_eq_true, List.isPrefixOf_iff_prefix] at h ⊢
    exact fun hfront => h (hfront.trans (List.dropLast_prefix l))
  down l name h hname := by
    rw [← Bool.not_eq_true, List.isPrefixOf_iff_prefix] at h ⊢
    intro hfront
    rcases List.prefix_concat_iff.mp hfront with heq | hfront
    · exact hname (by rw [heq, List.getLast?_concat])
    · exact h hfront
  dot := hP.notCurrent

namespace FileSystem

variable {fs fs' kept : FileSystem} {admits : Location → Bool} {P here l : Location} {n : Nat}
  {names : List ByteString}

theorem hidden_aside (hP : Apart P) : (View.aside hP).hidden l = true ↔ P <+: l :=
  List.isPrefixOf_iff_prefix

theorem visible_aside (hP : Apart P) : (View.aside hP).hidden l = false ↔ ¬ P <+: l := by
  rw [← hidden_aside hP, Bool.not_eq_true]

/-- **What is seen without a location** is what is left when it is removed. -/
theorem see_aside (hP : Apart P) (fs : FileSystem) : (View.aside hP).see fs = fs.remove P := by
  have hsame : ∀ xs : List (Location × Entry), (xs.map fun x => (x.1, x.2.mapContent id)) = xs := by
    intro xs
    simp
  exact congrArg FileSystem.mk (hsame _)

/-- What is put there is not seen. -/
theorem remove_put (hP : Apart P) {e : Entry} (hl : P <+: l) : (fs.put l e).remove P = fs.remove P := by
  rw [← see_aside hP, View.see_put_of_hidden ((hidden_aside hP).mpr hl), see_aside hP]

/-- Nothing is removed where nothing stands. -/
theorem remove_eq_self (hne : P ≠ []) (hfree : fs.get? P = none) (hempty : fs.below P = []) :
    fs.remove P = fs := by
  refine congrArg FileSystem.mk (List.filter_eq_self.mpr fun x hx => ?_)
  obtain ⟨l, e⟩ := x
  by_cases hl : l = P
  · subst hl
    obtain ⟨e', he'⟩ := exists_get?_of_mem hne hx
    rw [hfree] at he'
    cases he'
  · have hnot := List.filter_eq_nil_iff.mp hempty _ hx
    rw [isBelow_iff] at hnot
    have hfront : P.isPrefixOf l = false := by
      rw [← Bool.not_eq_true, List.isPrefixOf_iff_prefix]
      exact fun h => hnot ⟨h, hl⟩
    exact congrArg (!·) hfront

/-- What is seen is created alike, since contents are seen as they are. -/
theorem map_seeFixture_aside (hP : Apart P) (xs : List Fixture) :
    xs.map (View.aside hP).seeFixture = xs := by
  have hsame : ∀ x, (View.aside hP).seeFixture x = x := by
    intro x
    obtain ⟨path, kind, mode⟩ := x
    cases kind <;> rfl
  rw [funext hsame, List.map_id']

/-! ## What stands aside -/

/-- At a location and below it everything is as it was kept, and directories lead to the location. -/
structure Sheltered (P : Location) (kept fs : FileSystem) : Prop where
  dirs : ∀ k < P.length, (fs.get? (P.take k)).any Entry.isDir = true
  same : ∀ l, P <+: l → fs.get? l = kept.get? l

/-- What grows around the location leaves it alone. -/
theorem Sheltered.grown (h : Sheltered P kept fs) {hP : Apart P} (hgrown : (View.aside hP).Grown fs fs') :
    Sheltered P kept fs' where
  dirs := fun k hk => hgrown.keeps.any_isDir (h.dirs k hk)
  same := fun l hl => (hgrown.get?_of_hidden ((hidden_aside hP).mpr hl)).trans (h.same l hl)

/-- What is neither above nor below the location has nothing above or below it. -/
theorem not_prefix_of_comparable {at_ : Location} (hin : ¬ P <+: l) (hout : ¬ l <+: P)
    (hat : at_ <+: P ∨ P <+: at_) : ¬ l <+: at_ := by
  intro hfront
  rcases hat with hat | hat
  · exact hout (hfront.trans hat)
  · exact (List.prefix_or_prefix_of_prefix hfront hat).elim hout hin

/-- What is done elsewhere leaves the location alone. -/
theorem Sheltered.of_same (h : Sheltered P kept fs)
    (hsame : ∀ at_, at_ <+: P ∨ P <+: at_ → fs'.get? at_ = fs.get? at_) : Sheltered P kept fs' where
  dirs := fun k hk => by
    rw [hsame _ (Or.inl (List.take_prefix k P))]
    exact h.dirs k hk
  same := fun at_ hat => (hsame at_ (Or.inr hat)).trans (h.same at_ hat)

/-- A trail along the names of what stands there, with no link among it, goes on where all of it is kept. -/
theorem Trail.along (h : Trail fs admits n here names l)
    (hnames : ∀ name ∈ names, name ≠ "." ∧ name ≠ "..")
    (hkept : ∀ k ≤ names.length, ∀ e, fs.get? (here ++ names.take k) = some e →
      e.isLink = false ∧ ∃ e', fs'.get? (here ++ names.take k) = some e' ∧ e'.kind = e.kind) :
    Trail fs' admits n here names l := by
  have hasks : ∀ {dir name}, Asks fs admits dir name →
      (∀ e, fs.get? dir = some e → ∃ e', fs'.get? dir = some e' ∧ e'.kind = e.kind) →
      Asks fs' admits dir name := by
    intro dir name ha hdir
    refine { ha with isDir := ?_ }
    have hthere := ha.isDir
    cases he : fs.get? dir with
    | none => simp [he] at hthere
    | some e =>
      obtain ⟨e', he', hkind⟩ := hdir e he
      rw [he', Option.any_some, Entry.isDir_of_kind_eq hkind]
      simpa [he] using hthere
  induction h with
  | @stop here e he =>
    obtain ⟨-, e', he', -⟩ := hkept 0 (Nat.zero_le _) e (by simpa using he)
    exact .stop (by simpa using he')
  | stay hname _ _ _ => exact absurd hname (hnames _ List.mem_cons_self).1
  | up hname _ _ _ => exact absurd hname (hnames _ List.mem_cons_self).2
  | @down n here l name rest e ha he hlink _ ih =>
    have hhere := hkept 0 (Nat.zero_le _)
    rw [List.take_zero, List.append_nil] at hhere
    obtain ⟨-, e', he', hkind⟩ := hkept 1 (by simp) e he
    refine .down (hasks ha fun e he => (hhere e he).2) he' ?_ (ih ?_ ?_)
    · exact (Entry.isLink_of_kind_eq hkind).trans hlink
    · exact fun x hx => hnames x (List.mem_cons_of_mem _ hx)
    · intro k hk
      have hnext := hkept (k + 1) (by simpa using hk)
      rw [List.take_succ_cons, List.append_cons] at hnext
      exact hnext
  | link ha he _ _ _ =>
    have hlink := (hkept 1 (by simp) _ he).1
    cases hlink

/-- **What the path names of the location lead to is found again** with everything in it, if there is no
link in it. -/
theorem Sheltered.locate (hkept : Sheltered P kept kept) (h : Sheltered P kept fs)
    (hlinks : ∀ l, P <+: l → (kept.get? l).any Entry.isLink = false) {more : List ByteString} {e : Entry}
    (hordinary : ∀ name ∈ P ++ more, Ordinary name)
    (hfound : kept.locate here (absolutePath (P ++ more)) = .ok (P ++ more, e)) :
    fs.locate here (absolutePath (P ++ more)) = .ok (P ++ more, e) := by
  have hplain : ∀ name ∈ P ++ more, Pathname.Plain name := fun name hname => (hordinary name hname).plain
  obtain ⟨haskable, he, n, hn, htrail⟩ := locate_eq_ok_iff.mp hfound
  refine locate_eq_ok_iff.mpr ⟨haskable, ?_, n, hn, ?_⟩
  · rw [h.same _ (List.prefix_append P more)]
    exact he
  rw [startOf_absolutePath hplain, parts_absolutePath hplain] at htrail ⊢
  refine htrail.along (fun name hname => ?_) fun k hk old hold => ?_
  · exact ⟨(hordinary name hname).notCurrent, (hordinary name hname).notParent⟩
  rw [List.nil_append] at hold ⊢
  by_cases hlong : P.length ≤ k
  · -- At the location or below it, so there is what was kept.
    have hthere : P <+: (P ++ more).take k := by
      rw [List.take_append, List.take_of_length_le hlong]
      exact List.prefix_append _ _
    have hlink := hlinks _ hthere
    rw [hold] at hlink
    exact ⟨hlink, old, (h.same _ hthere).trans hold, rfl⟩
  · -- On the way to the location, where there are directories.
    have hfront : (P ++ more).take k = P.take k := List.take_append_of_le_length (by omega)
    rw [hfront] at hold ⊢
    have hold' := hkept.dirs k (by omega)
    have hnew := h.dirs k (by omega)
    rw [hold] at hold'
    cases he' : fs.get? (P.take k) with
    | none => simp [he'] at hnew
    | some e' =>
      rw [he'] at hnew
      cases old <;> cases e' <;> simp_all [Entry.isDir, Entry.isLink, Entry.kind]

/-! ## What is done beside it -/

/-- The files are those of `bare` with what was kept at the location, and no link among `bare` names it. -/
structure Beside (P : Location) (kept bare fs : FileSystem) : Prop where
  removed : fs.remove P = bare
  sheltered : Sheltered P kept fs
  links : ∀ l target, bare.get? l = some (.link target) → Pathname.Avoids P target

namespace Beside

variable {bare : FileSystem} {path : ByteString}

theorem get?_of_visible (h : Beside P kept bare fs) (hne : P ≠ []) (hl : ¬ P <+: l) :
    bare.get? l = fs.get? l := by
  rw [← h.removed, get?_remove hne, if_neg (by rwa [List.isPrefixOf_iff_prefix])]

theorem clear (h : Beside P kept bare fs) (hP : Apart P) : (View.aside hP).Clear fs := by
  intro l target hl hlink
  refine h.links l target ?_
  rw [h.get?_of_visible hP.ne_nil ((visible_aside hP).mp hl), hlink]

/-- What grows around the location grows beside it. -/
theorem grown (h : Beside P kept bare fs) {hP : Apart P} (hgrown : (View.aside hP).Grown fs fs') :
    Beside P kept ((View.aside hP).see fs') fs' := by
  refine ⟨(see_aside hP fs').symm, h.sheltered.grown hgrown, fun l target hlink => ?_⟩
  rw [View.get?_see] at hlink
  by_cases hl : (View.aside hP).hidden l = true
  · rw [if_pos hl] at hlink
    cases hlink
  · rw [if_neg hl, Option.map_eq_some_iff] at hlink
    obtain ⟨e, he, hlink⟩ := hlink
    rw [Entry.mapContent_eq_link] at hlink
    subst hlink
    exact hgrown.clear (h.clear hP) l target (by simpa using hl) he

section Steps

variable (hP : Apart P) (h : Beside P kept bare fs) (hhere : ¬ P <+: here)

include hP h hhere

theorem locate (hpath : Pathname.Avoids P path) : bare.locate here path = fs.locate here path := by
  have hseen := View.locate_see (h.clear hP) ((visible_aside hP).mpr hhere) hpath
  rw [see_aside hP, h.removed] at hseen
  rw [hseen]
  cases fs.locate here path with
  | error e => rfl
  | ok found => exact congrArg Except.ok (Prod.ext rfl (Entry.mapContent_id _))

/-- What a path name leads to is not at the location or below it. -/
theorem not_prefix_of_locate {e : Entry} (hpath : Pathname.Avoids P path)
    (hfound : fs.locate here path = .ok (l, e)) : ¬ P <+: l :=
  (visible_aside hP).mp (View.visible_of_locate (h.clear hP) ((visible_aside hP).mpr hhere) hpath hfound)

/-- **Directories are made beside the location** as without it. -/
theorem makeDirs (hpath : Pathname.Avoids P path) :
    (bare.makeDirs here path).2 = (fs.makeDirs here path).2 ∧
      Beside P kept (bare.makeDirs here path).1 (fs.makeDirs here path).1 := by
  obtain ⟨hmade, hgrown⟩ := View.makeDirs_see (h.clear hP)
    ((visible_aside hP).mpr hhere) hpath
  rw [see_aside hP, h.removed] at hmade
  rw [hmade]
  exact ⟨rfl, h.grown hgrown⟩

/-- **A script creates beside the location** what it creates without it. -/
theorem createAll {xs : List Fixture}
    (hxs : ∀ x ∈ xs, Pathname.Avoids P x.path ∧ ∀ target, x.kind = .link target → Pathname.Avoids P target) :
    Beside P kept (Fixture.createAll here bare xs) (Fixture.createAll here fs xs) := by
  obtain ⟨hmade, hgrown⟩ := View.createAll_see (h.clear hP)
    ((visible_aside hP).mpr hhere) hxs
  rw [see_aside hP, h.removed, map_seeFixture_aside hP] at hmade
  rw [hmade]
  exact h.grown hgrown

end Steps

/-! ### Removing entries -/

/-- A directory that is apart from the location is emptied beside it. -/
theorem removeBelow (hP : Apart P) (h : Beside P kept bare fs) (hin : ¬ P <+: l) (hout : ¬ l <+: P) :
    Beside P kept (bare.removeBelow l) (fs.removeBelow l) := by
  refine ⟨?_, h.sheltered.of_same fun at_ hat => ?_, fun at_ target hlink => ?_⟩
  · rw [← h.removed, ← see_aside hP, View.see_removeBelow, see_aside hP]
  · rw [get?_removeBelow, if_neg fun hbelow => ?_]
    exact not_prefix_of_comparable hin hout hat (isBelow_iff.mp hbelow).1
  · rw [get?_removeBelow] at hlink
    split at hlink
    · cases hlink
    · exact h.links at_ target hlink

/-- What is apart from the location is removed beside it. -/
theorem remove (hP : Apart P) (h : Beside P kept bare fs) (hin : ¬ P <+: l) (hout : ¬ l <+: P) :
    Beside P kept (bare.remove l) (fs.remove l) := by
  have hne : l ≠ [] := by
    rintro rfl
    exact hout List.nil_prefix
  refine ⟨?_, h.sheltered.of_same fun at_ hat => ?_, fun at_ target hlink => ?_⟩
  · rw [← h.removed, ← see_aside hP, View.see_remove, see_aside hP]
  · rw [get?_remove hne, if_neg fun hfront => ?_]
    exact not_prefix_of_comparable hin hout hat (List.isPrefixOf_iff_prefix.mp hfront)
  · rw [get?_remove hne] at hlink
    split at hlink
    · cases hlink
    · exact h.links at_ target hlink

/-- A directory that is apart from the location has the same entries beside it as without it. -/
theorem childNames (h : Beside P kept bare fs) (hin : ¬ P <+: l) (hout : ¬ l <+: P) :
    bare.childNames l = fs.childNames l := by
  rw [← h.removed]
  unfold FileSystem.childNames FileSystem.remove
  rw [List.filterMap_filter]
  congr 1
  funext x
  obtain ⟨at_, e⟩ := x
  dsimp only
  by_cases hdir : at_.dropLast = l
  · by_cases hfront : P <+: at_
    · refine absurd hfront fun hfront => ?_
      rcases List.eq_nil_or_concat at_ with rfl | ⟨front, name, rfl⟩
      · exact hin (hdir ▸ hfront)
      · rw [List.concat_eq_append, List.dropLast_concat] at hdir
        subst hdir
        rw [List.concat_eq_append] at hfront
        rcases List.prefix_concat_iff.mp hfront with rfl | hfront
        · exact hout (List.prefix_append _ _)
        · exact hin hfront
    · simp [hfront]
  · simp [hdir]

section Removing

variable (hP : Apart P) (h : Beside P kept bare fs) (hhere : ¬ P <+: here) {name : ByteString}
  (hpath : Pathname.Avoids P path) (haskable : Askable path) (hname : Ordinary name)
  (hout : ∀ l mode, fs.locate here path = .ok (l, .dir mode) → ¬ l <+: P)

include hP h hhere hpath haskable hname hout

/-- **A name seen from the path name** leads to the same place beside the location as without it, which is
apart from the location. -/
theorem resolve_join :
    bare.resolve here false (Pathname.join path name) = fs.resolve here false (Pathname.join path name) ∧
      ∀ l e, fs.resolve here false (Pathname.join path name) = .ok (.entry l e) →
        ¬ P <+: l ∧ ¬ l <+: P := by
  have hadmits : ∀ x ∈ Pathname.names path ++ [("." : ByteString)], (View.aside hP).admits x := by
    intro x hx
    rcases List.mem_append.mp hx with hx | hx
    · exact hpath x hx
    · rw [List.mem_singleton.mp hx]
      exact hP.notCurrent
  have hseen := (View.walk_see true AnyLocation maxLinks (h.clear hP)
    (View.visible_startOf path ((visible_aside hP).mpr hhere)) hadmits).1
  rw [see_aside hP, h.removed] at hseen
  obtain ⟨errno, hdot, hfails⟩ | ⟨l, mode, hdot⟩ :=
    walk_dot_cases fs false AnyLocation maxLinks (startOf here path) (Pathname.names path) name
  · rw [hdot] at hseen
    obtain ⟨errno', hdot', hfails'⟩ | ⟨l, mode, hdot'⟩ :=
      walk_dot_cases bare false AnyLocation maxLinks (startOf here path) (Pathname.names path) name
    · rw [hdot'] at hseen
      cases hseen
      rw [FileSystem.resolve_join_eq haskable hname, FileSystem.resolve_join_eq haskable hname, hfails, hfails']
      refine ⟨rfl, fun l e hfound => ?_⟩
      split at hfound <;> cases hfound
    · rw [hdot'] at hseen
      cases hseen
  · have hfound := locate_of_walk_dot haskable hdot
    have hfound' := (h.locate hP hhere hpath).trans hfound
    have hin := h.not_prefix_of_locate hP hhere hpath hfound
    have hapart : ¬ P <+: l ++ [name] ∧ ¬ l ++ [name] <+: P := by
      refine ⟨fun hfront => ?_, fun hfront => hout l mode hfound ((List.prefix_append _ _).trans hfront)⟩
      rcases List.prefix_concat_iff.mp hfront with heq | hfront
      · exact hout l mode hfound (heq ▸ List.prefix_append _ _)
      · exact hin hfront
    rw [FileSystem.resolve_join hfound hname (by simp), FileSystem.resolve_join hfound' hname (by simp), placeOf,
      placeOf, h.get?_of_visible hP.ne_nil hapart.1]
    refine ⟨rfl, fun at_ e hentry => ?_⟩
    split at hentry
    · split at hentry
      · cases hentry
      · cases hentry
        exact hapart
    · cases hentry

/-- **An entry is removed beside the location** as without it. -/
theorem removeEntry (isDir : Bool) :
    (∃ e, bare.removeEntry here isDir (Pathname.join path name) = .error e ∧
        fs.removeEntry here isDir (Pathname.join path name) = .error e) ∨
      ∃ bare' fs', bare.removeEntry here isDir (Pathname.join path name) = .ok bare' ∧
        fs.removeEntry here isDir (Pathname.join path name) = .ok fs' ∧ Beside P kept bare' fs' := by
  have hplace := h.resolve_join hP hhere hpath haskable hname hout
  unfold FileSystem.removeEntry removeFile removeDirAll
  rw [hplace.1]
  cases hr : fs.resolve here false (Pathname.join path name) with
  | error e => exact Or.inl ⟨e, by cases isDir <;> rfl, by cases isDir <;> rfl⟩
  | ok place =>
    cases place with
    | vacant dir name => exact Or.inl ⟨.os .noEntry, by cases isDir <;> rfl, by cases isDir <;> rfl⟩
    | entry l e =>
      obtain ⟨hin, hout'⟩ := hplace.2 l e hr
      have hgone := h.remove hP hin hout'
      cases isDir with
      | false => cases e <;> first | exact Or.inl ⟨_, rfl, rfl⟩ | exact Or.inr ⟨_, _, rfl, rfl, hgone⟩
      | true =>
        cases e with
        | file _ _ => exact Or.inl ⟨_, rfl, rfl⟩
        | device => exact Or.inl ⟨_, rfl, rfl⟩
        | link _ => exact Or.inr ⟨_, _, rfl, rfl, hgone⟩
        | dir mode =>
          have hemptied := h.removeBelow hP hin hout'
          have hagain := hemptied.resolve_join hP hhere hpath haskable hname fun at_ bits hfound => by
            obtain ⟨e', hfound', hkind⟩ := (keeps_removeBelow fs l).locate hfound
            cases e' <;> first | exact hout _ _ hfound' | cases hkind
          simp only [if_true]
          rw [hagain.1]
          cases hr' : (fs.removeBelow l).resolve here false (Pathname.join path name) with
          | error e => exact Or.inr ⟨_, _, rfl, rfl, hemptied⟩
          | ok place =>
            cases place with
            | vacant dir name => exact Or.inr ⟨_, _, rfl, rfl, hemptied⟩
            | entry l' e =>
              obtain ⟨hin', hout''⟩ := hagain.2 l' e hr'
              exact Or.inr ⟨_, _, rfl, rfl, hemptied.remove hP hin' hout''⟩

end Removing

end Beside

end FileSystem

end Checkout
