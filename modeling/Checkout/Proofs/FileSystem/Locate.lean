import Checkout.FileSystem.Operations
import Checkout.Proofs.FileSystem.Entries
import Checkout.Proofs.FileSystem.Trail

/-!
# What a path name leads to

`locate` is a walk, so what it finds is where a trail leads. A trail needs the entries that it passes
through to be what they are, and nothing else: it goes on in a file system that keeps them. And what a
name in a directory leads to is known once it is known where the directory is.

Results:
* `locate_eq_ok_iff`: where a path name leads, as a trail;
* `Keeps.locate`, `Keeps.locate_eq`: what was found is found again in a file system that keeps everything;
* `resolve_join`: a name seen from a directory;
* `locate_absolutePath`: the path name of a location leads there, if directories do.
-/

namespace Checkout.FileSystem

variable {fs fs' : FileSystem} {admits : Location → Bool} {follow : Bool} {here l : Location} {n : Nat}
  {links : Nat} {path dir name : ByteString} {e : Entry} {mode : Nat}

/-- The system gives every location out, if it can be asked for at all. -/
abbrev AnyLocation : Location → Bool := fun _ => true

/-! ## Trails in file systems that keep everything -/

theorem Keeps.any_isDir (h : Keeps fs fs') (hdir : (fs.get? l).any Entry.isDir = true) :
    (fs'.get? l).any Entry.isDir = true := by
  cases he : fs.get? l with
  | none => simp [he] at hdir
  | some e =>
    obtain ⟨e', he', hkind⟩ := h l e he
    rw [he', Option.any_some, Entry.isDir_of_kind_eq hkind]
    simpa [he] using hdir

/-- **A trail goes on in a file system that keeps everything.** -/
theorem Trail.keep {names : List ByteString} (hkeeps : Keeps fs fs')
    (h : Trail fs admits n here names l) : Trail fs' admits n here names l := by
  have hasks : ∀ {dir name}, Asks fs admits dir name → Asks fs' admits dir name :=
    fun ha => { ha with isDir := hkeeps.any_isDir ha.isDir }
  induction h with
  | stop he =>
    obtain ⟨e', he', -⟩ := hkeeps _ _ he
    exact .stop he'
  | stay hname hdir _ ih => exact .stay hname (hkeeps.any_isDir hdir) ih
  | up hname hdir _ ih => exact .up hname (hkeeps.any_isDir hdir) ih
  | down ha he hlink _ ih =>
    obtain ⟨e', he', hkind⟩ := hkeeps _ _ he
    exact .down (hasks ha) he' ((Entry.isLink_of_kind_eq hkind).trans hlink) ih
  | link ha he htarget _ ih =>
    obtain ⟨e', he', hkind⟩ := hkeeps _ _ he
    exact .link (hasks ha) (Entry.eq_link_of_kind_eq hkind ▸ he') htarget ih

/-! ## Locating -/

/-- A leg that ends at an entry has found it there. -/
theorem get?_of_leg_stop {names : List ByteString}
    (h : fs.leg true admits here names = .ok (.stop (.entry l e))) : fs.get? l = some e := by
  induction names generalizing here with
  | nil =>
    obtain ⟨e', he', heq⟩ := leg_nil h
    cases heq
    exact he'
  | cons name rest ih =>
    obtain ⟨-, ⟨-, h⟩ | ⟨-, h⟩ | hasks⟩ := leg_cases h
    · exact ih h
    · exact ih h
    · obtain heq | ⟨target, -, heq⟩ | ⟨e', -, -, h⟩ := leg_cases_of_asks hasks h
      · cases heq
      · cases heq
      · exact ih h

theorem get?_of_walk {names : List ByteString}
    (h : fs.walk true admits links here names = .ok (.entry l e)) : fs.get? l = some e := by
  induction links generalizing here names with
  | zero =>
    unfold walk at h
    cases hleg : fs.leg true admits here names with
    | error e => simp [hleg] at h
    | ok r =>
      cases r with
      | stop place =>
        simp only [hleg, Except.ok.injEq] at h
        exact get?_of_leg_stop (h ▸ hleg)
      | link dir target rest => simp [hleg] at h
  | succ links ih =>
    unfold walk at h
    cases hleg : fs.leg true admits here names with
    | error e => simp [hleg] at h
    | ok r =>
      cases r with
      | stop place =>
        simp only [hleg, Except.ok.injEq] at h
        exact get?_of_leg_stop (h ▸ hleg)
      | link dir target rest =>
        simp only [hleg] at h
        by_cases htarget : (!Pathname.isPathname target) = true
        · simp [htarget] at h
        · rw [if_neg htarget] at h
          exact ih h

/-- What a path name has to be before the system looks at it. -/
def Askable (path : ByteString) : Prop :=
  Pathname.isPathname path = true ∧ path.length ≤ maxPathBytes

theorem resolve_of_askable (h : Askable path) :
    fs.resolve here follow path =
      (fs.walk follow AnyLocation maxLinks (startOf here path) (Pathname.parts path)).mapError .os := by
  obtain ⟨hpath, hshort⟩ := h
  obtain ⟨hne, hnul⟩ := Pathname.isPathname_iff.mp hpath
  unfold resolve
  rw [if_neg (by simpa using hnul), if_neg hne, if_neg (by omega)]

theorem askable_of_resolve {place : Place} (h : fs.resolve here follow path = .ok place) :
    Askable path := by
  unfold resolve at h
  by_cases hnul : path.toList.contains Pathname.nul = true
  · rw [if_pos hnul] at h
    cases h
  by_cases hempty : path = ""
  · rw [if_neg hnul, if_pos hempty] at h
    cases h
  by_cases hlong : path.length > maxPathBytes
  · rw [if_neg hnul, if_neg hempty, if_pos hlong] at h
    cases h
  · exact ⟨Pathname.isPathname_iff.mpr ⟨hempty, by simpa using hnul⟩, by omega⟩

theorem locate_eq_ok : fs.locate here path = .ok (l, e) ↔ fs.resolve here true path = .ok (.entry l e) := by
  unfold locate
  cases fs.resolve here true path with
  | error e => simp
  | ok place => cases place <;> simp

/-- **Where a path name leads** is where the trail along its parts leads. -/
theorem locate_eq_ok_iff :
    fs.locate here path = .ok (l, e) ↔
      Askable path ∧ fs.get? l = some e ∧
        ∃ n ≤ maxLinks, Trail fs AnyLocation n (startOf here path) (Pathname.parts path) l := by
  rw [locate_eq_ok]
  constructor
  · intro h
    have haskable := askable_of_resolve h
    rw [resolve_of_askable haskable] at h
    cases hwalk : fs.walk true AnyLocation maxLinks (startOf here path) (Pathname.parts path) with
    | error e =>
      rw [hwalk] at h
      cases h
    | ok place =>
      rw [hwalk] at h
      cases h
      exact ⟨haskable, get?_of_walk hwalk, exists_trail_of_walk hwalk⟩
  · rintro ⟨haskable, he, n, hn, htrail⟩
    obtain ⟨e', hwalk⟩ := exists_walk_of_trail htrail hn
    have he' := get?_of_walk hwalk
    rw [he] at he'
    cases he'
    rw [resolve_of_askable haskable, hwalk]
    rfl

theorem pathExists_iff : fs.pathExists here path = true ↔ ∃ l e, fs.locate here path = .ok (l, e) := by
  unfold pathExists
  cases fs.locate here path with
  | error e => simp [Except.isOk, Except.toBool]
  | ok x => exact ⟨fun _ => ⟨x.1, x.2, rfl⟩, fun _ => rfl⟩

/-- **What was found is found again** in a file system that keeps everything. -/
theorem Keeps.locate (h : Keeps fs fs') (hfound : fs.locate here path = .ok (l, e)) :
    ∃ e', fs'.locate here path = .ok (l, e') ∧ e'.kind = e.kind := by
  obtain ⟨haskable, he, n, hn, htrail⟩ := locate_eq_ok_iff.mp hfound
  obtain ⟨e', he', hkind⟩ := h l e he
  exact ⟨e', locate_eq_ok_iff.mpr ⟨haskable, he', n, hn, htrail.keep h⟩, hkind⟩

/-- What was found is found as it was, if it has not changed. -/
theorem Keeps.locate_eq (h : Keeps fs fs') (hfound : fs.locate here path = .ok (l, e))
    (hsame : fs'.get? l = fs.get? l) : fs'.locate here path = .ok (l, e) := by
  obtain ⟨e', hfound', -⟩ := h.locate hfound
  have he := (locate_eq_ok_iff.mp hfound).2.1
  have he' := (locate_eq_ok_iff.mp hfound').2.1
  rw [hsame, he] at he'
  cases he'
  exact hfound'

/-- What is found does not depend on the order in which the entries are listed. -/
theorem locate_eq_of_get?_eq (h : ∀ l, fs'.get? l = fs.get? l) (hfound : fs.locate here path = .ok (l, e)) :
    fs'.locate here path = .ok (l, e) :=
  have hkeeps : Keeps fs fs' := fun l e he => ⟨e, (h l).trans he, rfl⟩
  hkeeps.locate_eq hfound (h l)

/-- The directory that a path name leads to is where its names lead. -/
theorem exists_trail_of_locate (h : fs.locate here path = .ok (l, e)) :
    ∃ n ≤ maxLinks, Trail fs AnyLocation n (startOf here path) (Pathname.names path) l := by
  obtain ⟨-, -, n, hn, htrail⟩ := locate_eq_ok_iff.mp h
  obtain ⟨tail, hparts, htail⟩ := Pathname.parts_eq path
  rw [hparts] at htrail
  obtain ⟨i, j, t, hij, hi, hj⟩ := htrail.exists_of_append
  rw [eq_of_trail_tail hj htail]
  exact ⟨i, by omega, hi⟩

/-! ## Names in a directory -/

/-- Walks go on alike after legs that do. -/
theorem walk_congr {names there : List ByteString} {here' : Location}
    (h : fs.leg follow admits here names = fs.leg follow admits here' there) :
    fs.walk follow admits links here names = fs.walk follow admits links here' there := by
  unfold walk
  rw [h]

/-- **A walk goes on where a trail ends.** Whether a link under the last name is followed does not matter
on the way there. -/
theorem walk_append {as bs : List ByteString} (h : Trail fs admits n here as l) (hn : n ≤ links)
    (hbs : bs ≠ []) :
    fs.walk follow admits links here (as ++ bs) = fs.walk follow admits (links - n) l bs := by
  induction h generalizing links with
  | stop _ => rfl
  | @stay n here l name rest hname hdir _ ih =>
    rw [← ih hn, List.cons_append]
    refine walk_congr ?_
    rw [leg, hdir, if_neg (by decide), if_pos hname]
  | @up n here l name rest hname hdir _ ih =>
    rw [← ih hn, List.cons_append]
    refine walk_congr ?_
    rw [leg, hdir, if_neg (by decide), if_neg (hname ▸ by decide), if_pos hname]
  | @down n here l name rest e hasks he hlink _ ih =>
    rw [← ih hn, List.cons_append]
    refine walk_congr ?_
    rw [leg_cons_of_asks follow hasks, he]
    cases e with
    | link target => cases hlink
    | file content mode => rfl
    | dir mode => rfl
    | device => rfl
  | @link n here l name target rest hasks he htarget _ ih =>
    obtain ⟨links, rfl⟩ : ∃ k, links = k + 1 := ⟨links - 1, by omega⟩
    have hmore : (rest ++ bs).isEmpty = false := by simp [hbs]
    have hleg : fs.leg follow admits here (name :: (rest ++ bs)) = .ok (.link here target (rest ++ bs)) := by
      rw [leg_cons_of_asks follow hasks, he]
      simp [hmore]
    rw [List.cons_append, walk, hleg]
    simp only [htarget]
    rw [if_neg (by decide), ← List.append_assoc, ih (by omega)]
    congr 1
    omega

/-- A name in a directory can be asked for: it and the path name are short enough. -/
def Fits (dir name : ByteString) : Prop :=
  name.length ≤ maxNameBytes ∧ (Pathname.join dir name).length ≤ maxPathBytes

instance (dir name : ByteString) : Decidable (Fits dir name) := inferInstanceAs (Decidable (_ ∧ _))

/-- What stands under a name in a directory. -/
def placeOf (fs : FileSystem) (dir : Location) (name : ByteString) : Place :=
  match fs.get? (dir ++ [name]) with
  | none => .vacant dir name
  | some e => .entry (dir ++ [name]) e

theorem walk_name (hdir : fs.get? l = some (.dir mode)) (hname : Ordinary name)
    (hlink : follow = true → (fs.get? (l ++ [name])).any Entry.isLink = false) :
    fs.walk follow AnyLocation links l [name] =
      if name.length ≤ maxNameBytes then .ok (fs.placeOf l name) else .error .nameTooLong := by
  by_cases hsize : name.length ≤ maxNameBytes
  · have hasks : Asks fs AnyLocation l name :=
      ⟨by simp [hdir, Entry.isDir], hname.notCurrent, hname.notParent, hsize, rfl⟩
    rw [if_pos hsize, walk, leg_cons_of_asks follow hasks, placeOf]
    cases he : fs.get? (l ++ [name]) with
    | none => rfl
    | some e =>
      cases e with
      | link target =>
        have hstay : follow = false := by
          cases follow with
          | false => rfl
          | true => simp [he, Entry.isLink] at hlink
        simp [hstay]
      | file content mode => simp [leg, he]
      | dir mode => simp [leg, he]
      | device => simp [leg, he]
  · have hlong : maxNameBytes < name.length := by omega
    rw [if_neg hsize, walk, leg]
    simp [hdir, Entry.isDir, hname.notCurrent, hname.notParent, hlong]

/-- **A name seen from a path name** is walked to by the names of the path name and itself. -/
theorem resolve_join_eq (haskable : Askable dir) (hname : Ordinary name) :
    fs.resolve here follow (Pathname.join dir name) =
      if (Pathname.join dir name).length ≤ maxPathBytes then
        (fs.walk follow AnyLocation maxLinks (startOf here dir) (Pathname.names dir ++ [name])).mapError .os
      else .error (.os .nameTooLong) := by
  obtain ⟨hne, hnul⟩ := Pathname.isPathname_iff.mp haskable.1
  have hrel := Pathname.not_isAbsolute_of_plain hname.plain
  have hnul' : Pathname.nul ∉ (Pathname.join dir name).toList :=
    (Pathname.noNul_join hne hrel).mpr ⟨hnul, hname.plain.noNul⟩
  have hne' := Pathname.join_ne_empty hne hrel
  by_cases hshort : (Pathname.join dir name).length ≤ maxPathBytes
  · rw [if_pos hshort, resolve_of_askable ⟨Pathname.isPathname_iff.mpr ⟨hne', hnul'⟩, hshort⟩,
      Pathname.parts_join hne hname.plain, startOf_eq_of_isAbsolute_eq (Pathname.isAbsolute_join hne hrel)]
  · rw [if_neg hshort]
    unfold resolve
    rw [if_neg (by simpa using hnul'), if_neg hne', if_pos (by omega)]

/-- **A name seen from a directory** leads to what stands there under this name, unless a link there is
followed. -/
theorem resolve_join (hdir : fs.locate here dir = .ok (l, .dir mode)) (hname : Ordinary name)
    (hlink : follow = true → (fs.get? (l ++ [name])).any Entry.isLink = false) :
    fs.resolve here follow (Pathname.join dir name) =
      if Fits dir name then .ok (fs.placeOf l name) else .error (.os .nameTooLong) := by
  obtain ⟨haskable, hentry, -⟩ := locate_eq_ok_iff.mp hdir
  rw [resolve_join_eq haskable hname]
  by_cases hshort : (Pathname.join dir name).length ≤ maxPathBytes
  · obtain ⟨n, hn, htrail⟩ := exists_trail_of_locate hdir
    rw [if_pos hshort, walk_append htrail hn (by simp), walk_name hentry hname hlink]
    by_cases hsize : name.length ≤ maxNameBytes
    · rw [if_pos hsize, if_pos ⟨hsize, hshort⟩]
      rfl
    · rw [if_neg hsize, if_neg fun h => hsize h.1]
      rfl
  · rw [if_neg hshort, if_neg fun h => hshort h.2]

/-- What is located under a name in a directory. -/
theorem locate_join_iff (hdir : fs.locate here dir = .ok (l, .dir mode)) (hname : Ordinary name)
    (hlink : (fs.get? (l ++ [name])).any Entry.isLink = false) {at_ : Location} :
    fs.locate here (Pathname.join dir name) = .ok (at_, e) ↔
      Fits dir name ∧ at_ = l ++ [name] ∧ fs.get? (l ++ [name]) = some e := by
  rw [locate_eq_ok, resolve_join hdir hname fun _ => hlink]
  by_cases hfits : Fits dir name
  · rw [if_pos hfits, placeOf]
    cases fs.get? (l ++ [name]) with
    | none => simp
    | some e' =>
      simp only [Except.ok.injEq, Place.entry.injEq, Option.some.injEq, hfits, true_and]
      exact and_congr_left fun _ => eq_comm
  · simp [hfits]

/-! ## Path names of locations -/

theorem intercalate_append_cons (sep a b : ByteString) (rest : List ByteString) :
    sep.intercalate ((a ++ b) :: rest) = a ++ sep.intercalate (b :: rest) := by
  cases rest with
  | nil => rw [ByteString.intercalate_singleton, ByteString.intercalate_singleton]
  | cons c rest => simp only [ByteString.intercalate_cons_cons, ByteString.append_assoc]

/-- **The path name of a location** is that of the root with the names joined to it. -/
theorem absolutePath_eq {names : Location} (h : ∀ name ∈ names, Pathname.Plain name) :
    absolutePath names = names.foldl Pathname.join "/" := by
  have hjoined : ∀ (rest : List ByteString) (base : ByteString), base ≠ "" →
      Pathname.endsWithSlash base = false →
      (∀ name ∈ rest, Pathname.Plain name) →
      ByteString.intercalate "/" (base :: rest) = rest.foldl Pathname.join base := by
    intro rest
    induction rest with
    | nil => exact fun _ _ _ _ => ByteString.intercalate_singleton
    | cons name rest ih =>
      intro base hbase hends hplain
      have hname := hplain name List.mem_cons_self
      have hjoin : Pathname.join base name = base ++ "/" ++ name := by
        rcases Pathname.join_cases hbase (Pathname.not_isAbsolute_of_plain hname) with ⟨h, -⟩ | ⟨-, h⟩
        · rw [hends] at h
          cases h
        · exact h
      rw [List.foldl_cons, hjoin, ← ih _ (by simp [hbase])
        (hjoin ▸ Pathname.endsWithSlash_join hbase hname) fun x hx => hplain x (List.mem_cons_of_mem _ hx),
        ByteString.intercalate_cons_cons, intercalate_append_cons]
  unfold absolutePath
  cases names with
  | nil => rfl
  | cons name rest =>
    have hname := h name List.mem_cons_self
    have hroot : Pathname.join "/" name = "/" ++ name := by
      unfold Pathname.join
      rw [Pathname.not_isAbsolute_of_plain hname]
      rfl
    rw [List.foldl_cons, hroot, ← intercalate_append_cons]
    refine hjoined rest _ (by simp) ?_ fun x hx => h x (List.mem_cons_of_mem _ hx)
    exact hroot ▸ Pathname.endsWithSlash_join (by decide) hname

theorem absolutePath_append {names more : Location} (h : ∀ name ∈ names ++ more, Pathname.Plain name) :
    absolutePath (names ++ more) = more.foldl Pathname.join (absolutePath names) := by
  rw [absolutePath_eq h, absolutePath_eq fun x hx => h x (List.mem_append_left _ hx), List.foldl_append]

theorem parts_absolutePath (h : ∀ name ∈ l, Pathname.Plain name) :
    Pathname.parts (absolutePath l) = l := by
  rw [absolutePath_eq h]
  rcases List.eq_nil_or_concat l with rfl | ⟨front, name, rfl⟩
  · rfl
  · have hroot : ("/" : ByteString) ≠ "" := by decide
    have hnames : Pathname.names "/" = [] := by decide
    rw [List.concat_eq_append] at h ⊢
    rw [Pathname.parts_foldl_join hroot h, hnames, List.nil_append]

/-- A location is reached: directories lead to it, by names that can be asked for. -/
structure Reached (fs : FileSystem) (l : Location) : Prop where
  ordinary : ∀ name ∈ l, Ordinary name ∧ name.length ≤ maxNameBytes
  dirs : ∀ k < l.length, (fs.get? (l.take k)).any Entry.isDir = true

theorem trail_of_reached (front : Location) {names : Location}
    (hnames : ∀ name ∈ names, Ordinary name ∧ name.length ≤ maxNameBytes)
    (hdirs : ∀ k < names.length, (fs.get? (front ++ names.take k)).any Entry.isDir = true)
    (hadmits : ∀ k, admits (front ++ names.take k) = true)
    (he : fs.get? (front ++ names) = some e) (hlink : e.isLink = false) :
    Trail fs admits 0 front names (front ++ names) := by
  induction names generalizing front with
  | nil =>
    rw [List.append_nil] at he ⊢
    exact .stop he
  | cons name rest ih =>
    obtain ⟨hname, hshort⟩ := hnames name List.mem_cons_self
    have hfront : (fs.get? front).any Entry.isDir = true := by
      simpa using hdirs 0 (by simp)
    have hwhole : front ++ name :: rest = front ++ [name] ++ rest := by simp
    rw [hwhole] at he ⊢
    have hrest : Trail fs admits 0 (front ++ [name]) rest (front ++ [name] ++ rest) := by
      refine ih (front ++ [name]) (fun x hx => hnames x (List.mem_cons_of_mem _ hx)) (fun k hk => ?_)
        (fun k => ?_) he
      · simpa using hdirs (k + 1) (by simpa using hk)
      · simpa using hadmits (k + 1)
    have hstep : ∃ e', fs.get? (front ++ [name]) = some e' ∧ e'.isLink = false := by
      cases rest with
      | nil => exact ⟨e, by simpa using he, hlink⟩
      | cons next more =>
        have hdir : (fs.get? (front ++ [name])).any Entry.isDir = true := hdirs 1 (by simp)
        cases hmid : fs.get? (front ++ [name]) with
        | none => simp [hmid] at hdir
        | some e' =>
          refine ⟨e', rfl, ?_⟩
          rw [hmid, Option.any_some] at hdir
          cases e' <;> first | rfl | cases hdir
    obtain ⟨e', he', hlink'⟩ := hstep
    have hadmitted : admits (front ++ [name]) = true := by simpa using hadmits 1
    exact .down ⟨hfront, hname.notCurrent, hname.notParent, hshort, hadmitted⟩ he' hlink' hrest

theorem startOf_absolutePath (h : ∀ name ∈ l, Pathname.Plain name) :
    startOf here (absolutePath l) = [] := by
  have hroot : ("/" : ByteString) ≠ "" := by decide
  have habsolute := (Pathname.foldl_join_spec hroot h).2.2.1
  rw [← absolutePath_eq h] at habsolute
  unfold startOf
  rw [habsolute]
  rfl

/-- **The path name of a location leads there**, if the location is reached and holds no link. -/
theorem locate_absolutePath (h : Reached fs l)
    (hshort : (absolutePath l).length ≤ maxPathBytes) (he : fs.get? l = some e)
    (hlink : e.isLink = false) : fs.locate here (absolutePath l) = .ok (l, e) := by
  have hplain : ∀ name ∈ l, Pathname.Plain name := fun name hname => (h.ordinary name hname).1.plain
  have htrail : Trail fs AnyLocation 0 [] l l :=
    trail_of_reached [] h.ordinary (by simpa using h.dirs) (fun _ => rfl) (by simpa using he) hlink
  have hroot : ("/" : ByteString) ≠ "" := by decide
  obtain ⟨hne, -, -, hnul⟩ := Pathname.foldl_join_spec hroot hplain
  rw [← absolutePath_eq hplain] at hne hnul
  refine locate_eq_ok_iff.mpr ⟨⟨Pathname.isPathname_iff.mpr ⟨hne, hnul (by decide)⟩, hshort⟩, he, 0,
    Nat.zero_le _, ?_⟩
  rw [startOf_absolutePath hplain, parts_absolutePath hplain]
  exact htrail

end Checkout.FileSystem
