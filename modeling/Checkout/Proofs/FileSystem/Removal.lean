import Checkout.Proofs.FileSystem.Locate

/-!
# Removing what a directory holds

An entry is removed under the path name of its directory and its own name. The system walks to the directory
each time anew, through files of which some are gone already. It comes to the same directory or to none; so
what goes is below that directory, and all else stays.

Results:
* `walk_dot_cases`: a walk comes to a directory, or the walk to a name in it fails alike;
* `Pruned.removeEntry_cases`, `Pruned.removeEntry`: what is removed is below the directory;
* `removeEntry_join`: an entry is removed if the path name of its directory does not lead through it.
-/

namespace Checkout.FileSystem

variable {fs fs' fs'' : FileSystem} {admits : Location → Bool} {follow : Bool} {here l at_ : Location}
  {links : Nat} {as bs : List ByteString} {path name : ByteString} {e : Entry} {mode : Nat}

/-! ## Names seen from a path name -/

/-- What a leg does at a name that others follow: it fails, goes on somewhere, or meets a link. -/
theorem leg_step (fs : FileSystem) (admits : Location → Bool) (here : Location) (name : ByteString) :
    (∃ errno, ∀ follow rest, rest ≠ [] → fs.leg follow admits here (name :: rest) = .error errno) ∨
      (∃ next, ∀ follow rest, rest ≠ [] →
        fs.leg follow admits here (name :: rest) = fs.leg follow admits next rest) ∨
      ∃ target, ∀ follow rest, rest ≠ [] →
        fs.leg follow admits here (name :: rest) = .ok (.link here target rest) := by
  by_cases hdir : (fs.get? here).any Entry.isDir = true
  · by_cases hdot : name = "."
    · exact Or.inr (Or.inl ⟨here, fun _ _ _ => by simp [leg, hdir, hdot]⟩)
    by_cases hdots : name = ".."
    · exact Or.inr (Or.inl ⟨here.dropLast, fun _ _ _ => by simp [leg, hdir, hdots]⟩)
    by_cases hlong : name.length > maxNameBytes ∨ (!admits (here ++ [name])) = true
    · exact Or.inl ⟨.nameTooLong, fun _ _ _ => by
        rw [leg, hdir, if_neg (by decide), if_neg hdot, if_neg hdots, if_pos hlong]⟩
    rw [not_or, Nat.not_lt] at hlong
    have hasks : Asks fs admits here name := ⟨hdir, hdot, hdots, hlong.1, by simpa using hlong.2⟩
    cases he : fs.get? (here ++ [name]) with
    | none => exact Or.inl ⟨.noEntry, fun _ _ hrest => by simp [leg_cons_of_asks _ hasks, he, hrest]⟩
    | some e =>
      cases e with
      | link target =>
        exact Or.inr (Or.inr ⟨target, fun _ _ hrest => by simp [leg_cons_of_asks _ hasks, he, hrest]⟩)
      | file _ _ => exact Or.inr (Or.inl ⟨here ++ [name], fun _ _ _ => by simp [leg_cons_of_asks _ hasks, he]⟩)
      | dir _ => exact Or.inr (Or.inl ⟨here ++ [name], fun _ _ _ => by simp [leg_cons_of_asks _ hasks, he]⟩)
      | device => exact Or.inr (Or.inl ⟨here ++ [name], fun _ _ _ => by simp [leg_cons_of_asks _ hasks, he]⟩)
  · exact Or.inl ⟨.notDirectory, fun _ _ _ => by simp [leg, hdir]⟩

/-- A leg that demands a directory at its end, and the leg to a name in it. -/
theorem leg_dot_cases (fs : FileSystem) (follow : Bool) (admits : Location → Bool) (here : Location)
    (as : List ByteString) (name : ByteString) :
    (∃ errno, fs.leg true admits here (as ++ [("." : ByteString)]) = .error errno ∧
        fs.leg follow admits here (as ++ [name]) = .error errno) ∨
      (∃ l mode, fs.leg true admits here (as ++ [("." : ByteString)]) = .ok (.stop (.entry l (.dir mode)))) ∨
      ∃ dir target rest, fs.leg true admits here (as ++ [("." : ByteString)]) =
          .ok (.link dir target (rest ++ [("." : ByteString)])) ∧
        fs.leg follow admits here (as ++ [name]) = .ok (.link dir target (rest ++ [name])) := by
  induction as generalizing here with
  | nil =>
    cases he : fs.get? here with
    | none => exact Or.inl ⟨.notDirectory, by simp [leg, he], by simp [leg, he]⟩
    | some e =>
      cases e with
      | dir mode => exact Or.inr (Or.inl ⟨here, mode, by simp [leg, he, Entry.isDir]⟩)
      | file _ _ => exact Or.inl ⟨.notDirectory, by simp [leg, he, Entry.isDir], by simp [leg, he, Entry.isDir]⟩
      | link _ => exact Or.inl ⟨.notDirectory, by simp [leg, he, Entry.isDir], by simp [leg, he, Entry.isDir]⟩
      | device => exact Or.inl ⟨.notDirectory, by simp [leg, he, Entry.isDir], by simp [leg, he, Entry.isDir]⟩
  | cons a as ih =>
    rw [List.cons_append, List.cons_append]
    obtain ⟨errno, hstep⟩ | ⟨next, hstep⟩ | ⟨target, hstep⟩ := leg_step fs admits here a
    · exact Or.inl ⟨errno, hstep _ _ (by simp), hstep _ _ (by simp)⟩
    · rw [hstep _ _ (by simp), hstep _ _ (by simp)]
      exact ih next
    · exact Or.inr (Or.inr ⟨here, target, as, hstep _ _ (by simp), hstep _ _ (by simp)⟩)

/-- **A walk that demands a directory at its end** comes to one, or fails like the walk to a name in it. -/
theorem walk_dot_cases (fs : FileSystem) (follow : Bool) (admits : Location → Bool) (links : Nat)
    (here : Location) (as : List ByteString) (name : ByteString) :
    (∃ errno, fs.walk true admits links here (as ++ [("." : ByteString)]) = .error errno ∧
        fs.walk follow admits links here (as ++ [name]) = .error errno) ∨
      ∃ l mode, fs.walk true admits links here (as ++ [("." : ByteString)]) = .ok (.entry l (.dir mode)) := by
  induction links generalizing here as with
  | zero =>
    rw [walk, walk]
    obtain ⟨errno, hdot, hname⟩ | ⟨l, mode, hdot⟩ | ⟨dir, target, rest, hdot, hname⟩ :=
      leg_dot_cases fs follow admits here as name
    · exact Or.inl ⟨errno, by rw [hdot], by rw [hname]⟩
    · exact Or.inr ⟨l, mode, by rw [hdot]⟩
    · exact Or.inl ⟨.tooManyLinks, by rw [hdot], by rw [hname]⟩
  | succ links ih =>
    rw [walk, walk]
    obtain ⟨errno, hdot, hname⟩ | ⟨l, mode, hdot⟩ | ⟨dir, target, rest, hdot, hname⟩ :=
      leg_dot_cases fs follow admits here as name
    · exact Or.inl ⟨errno, by rw [hdot], by rw [hname]⟩
    · exact Or.inr ⟨l, mode, by rw [hdot]⟩
    · rw [hdot, hname]
      dsimp only
      by_cases htarget : (!Pathname.isPathname target) = true
      · rw [if_pos htarget, if_pos htarget]
        exact Or.inl ⟨.noEntry, rfl, rfl⟩
      · rw [if_neg htarget, if_neg htarget, ← List.append_assoc, ← List.append_assoc]
        exact ih _ _

/-- What a walk that demands a directory comes to is what the path name leads to. -/
theorem locate_of_walk_dot (haskable : Askable path)
    (h : fs.walk true AnyLocation maxLinks (startOf here path) (Pathname.names path ++ [("." : ByteString)]) =
      .ok (.entry l e)) : fs.locate here path = .ok (l, e) := by
  obtain ⟨n, hn, htrail⟩ := exists_trail_of_walk h
  obtain ⟨i, j, t, hij, hi, hj⟩ := htrail.exists_of_append
  have hend := eq_of_trail_tail hj (Or.inr rfl)
  subst hend
  refine locate_eq_ok_iff.mpr ⟨haskable, get?_of_walk h, ?_⟩
  obtain ⟨tail, hparts, rfl | rfl⟩ := Pathname.parts_eq path
  · rw [hparts, List.append_nil]
    exact ⟨i, by omega, hi⟩
  · rw [hparts]
    exact ⟨n, hn, htrail⟩

/-- **A path name leads to a directory**, or every name seen from it fails. -/
theorem locate_dir_or_resolve_join (fs : FileSystem) (here : Location) (follow : Bool)
    (haskable : Askable path) (hname : Ordinary name) :
    (∃ l mode, fs.locate here path = .ok (l, .dir mode)) ∨
      ∃ e, fs.resolve here follow (Pathname.join path name) = .error e := by
  obtain ⟨errno, -, hfails⟩ | ⟨l, mode, hwalk⟩ :=
    walk_dot_cases fs follow AnyLocation maxLinks (startOf here path) (Pathname.names path) name
  · rw [resolve_join_eq haskable hname, hfails]
    by_cases hshort : (Pathname.join path name).length ≤ maxPathBytes
    · exact Or.inr ⟨.os errno, by rw [if_pos hshort]; rfl⟩
    · exact Or.inr ⟨.os .nameTooLong, by rw [if_neg hshort]⟩
  · exact Or.inl ⟨l, mode, locate_of_walk_dot haskable hwalk⟩

/-! ## What is removed -/

/-- What is removed need not be emptied before. -/
theorem remove_removeBelow (fs : FileSystem) (l : Location) : (fs.removeBelow l).remove l = fs.remove l := by
  unfold remove removeBelow
  rw [List.filter_filter]
  refine congrArg FileSystem.mk (List.filter_congr fun ⟨at_, e⟩ _ => ?_)
  unfold isBelow
  dsimp only
  generalize l.isPrefixOf at_ = front
  cases front <;> rfl

/-- What is left was there before. -/
theorem keeps_removeBelow (fs : FileSystem) (l : Location) : Keeps (fs.removeBelow l) fs := by
  intro at_ e he
  rw [get?_removeBelow] at he
  split at he
  · cases he
  · exact ⟨e, he, rfl⟩

/-- Nothing has changed but that entries below a location are gone. -/
structure Pruned (l : Location) (fs fs' : FileSystem) : Prop where
  old : ∀ at_ e, fs'.get? at_ = some e → fs.get? at_ = some e
  same : ∀ at_, isBelow l at_ = false → fs'.get? at_ = fs.get? at_

namespace Pruned

theorem refl (l : Location) (fs : FileSystem) : Pruned l fs fs := ⟨fun _ _ h => h, fun _ _ => rfl⟩

theorem trans (h : Pruned l fs fs') (h' : Pruned l fs' fs'') : Pruned l fs fs'' :=
  ⟨fun at_ e he => h.old at_ e (h'.old at_ e he), fun at_ hat => (h'.same at_ hat).trans (h.same at_ hat)⟩

theorem removeBelow (fs : FileSystem) (hat : isBelow l at_ = true) : Pruned l fs (fs.removeBelow at_) := by
  refine ⟨fun x e he => ?_, fun x hx => ?_⟩
  · rw [get?_removeBelow] at he
    split at he
    · cases he
    · exact he
  · rw [get?_removeBelow, if_neg fun hbelow => ?_]
    have hinner : isBelow l x = true := isBelow_trans hat hbelow
    rw [hx] at hinner
    cases hinner

theorem remove (fs : FileSystem) (hat : isBelow l at_ = true) : Pruned l fs (fs.remove at_) := by
  have hne : at_ ≠ [] := by
    rintro rfl
    obtain ⟨hfront, hother⟩ := isBelow_iff.mp hat
    exact hother (List.prefix_nil.mp hfront).symm
  refine ⟨fun x e he => ?_, fun x hx => ?_⟩
  · rw [get?_remove hne] at he
    split at he
    · cases he
    · exact he
  · rw [get?_remove hne, if_neg fun hfront => ?_]
    have hinner := isBelow_of_prefix_of_isBelow hat (List.isPrefixOf_iff_prefix.mp hfront)
    rw [hx] at hinner
    cases hinner

theorem keeps (h : Pruned l fs fs') : Keeps fs' fs := fun at_ e he => ⟨e, h.old at_ e he, rfl⟩

theorem emptied (fs : FileSystem) (l : Location) : Pruned l fs (fs.removeBelow l) := by
  refine ⟨fun x e he => ?_, fun x hx => ?_⟩
  · rw [get?_removeBelow] at he
    split at he
    · cases he
    · exact he
  · rw [get?_removeBelow, if_neg (by simp [hx])]

/-- The location itself is as it was. -/
theorem get?_self (h : Pruned l fs fs') : fs'.get? l = fs.get? l :=
  h.same l (by simp [isBelow])

/-- A path name that leads to a directory also when this is empty, leads there whatever has been removed from
it. -/
theorem locate_of_empty (h : Pruned l fs fs')
    (hempty : (fs.removeBelow l).locate here path = .ok (l, .dir mode)) :
    fs'.locate here path = .ok (l, .dir mode) := by
  have hkeeps : Keeps (fs.removeBelow l) fs' := by
    intro at_ e he
    rw [get?_removeBelow] at he
    split at he
    · cases he
    · rename_i hbelow
      exact ⟨e, (h.same at_ (by simpa using hbelow)).trans he, rfl⟩
  obtain ⟨e', hfound, -⟩ := hkeeps.locate hempty
  obtain ⟨-, he', -⟩ := locate_eq_ok_iff.mp hfound
  obtain ⟨-, he, -⟩ := locate_eq_ok_iff.mp hempty
  rw [(emptied fs l).get?_self] at he
  rw [h.get?_self, he] at he'
  cases he'
  exact hfound

section Directory

variable (hpruned : Pruned l fs fs') (hdir : fs.locate here path = .ok (l, .dir mode))

include hpruned hdir

/-- **The path name leads to the same directory** or to none. -/
theorem locate_eq (hfound : fs'.locate here path = .ok (at_, e)) : at_ = l ∧ e = .dir mode := by
  obtain ⟨e', hfound', -⟩ := hpruned.keeps.locate hfound
  rw [hdir] at hfound'
  obtain ⟨rfl, rfl⟩ := Prod.mk.inj (Except.ok.inj hfound')
  obtain ⟨-, he, -⟩ := locate_eq_ok_iff.mp hfound
  obtain ⟨-, hold, -⟩ := locate_eq_ok_iff.mp hdir
  rw [hpruned.get?_self, hold] at he
  exact ⟨rfl, (Option.some.inj he).symm⟩

/-- What a name seen from the path name leads to is in the directory. -/
theorem resolve_join_eq_ok {place : Place} (hname : Ordinary name)
    (h : fs'.resolve here false (Pathname.join path name) = .ok place) :
    fs'.locate here path = .ok (l, .dir mode) ∧ place = fs'.placeOf l name := by
  obtain ⟨haskable, -⟩ := locate_eq_ok_iff.mp hdir
  obtain ⟨at_, bits, hfound⟩ | ⟨e, hfails⟩ :=
    locate_dir_or_resolve_join fs' here false haskable hname
  · obtain ⟨rfl, hmode⟩ := hpruned.locate_eq hdir hfound
    rw [hmode] at hfound
    rw [resolve_join hfound hname (by simp)] at h
    refine ⟨hfound, ?_⟩
    split at h
    · exact (Except.ok.inj h).symm
    · cases h
  · rw [hfails] at h
    cases h

/-- **What is removed under a name**: what stands in the directory under this name, with all that is below it.
Or what is below it only, and then the path name does not lead to the directory any more. -/
theorem removeEntry_cases {isDir : Bool} (hname : Ordinary name)
    (h : fs'.removeEntry here isDir (Pathname.join path name) = .ok fs'') :
    fs'' = fs'.remove (l ++ [name]) ∨
      fs'' = fs'.removeBelow (l ++ [name]) ∧ ∀ found, fs''.locate here path ≠ .ok found := by
  cases hr : fs'.resolve here false (Pathname.join path name) with
  | error e =>
    unfold FileSystem.removeEntry removeDirAll removeFile at h
    rw [hr] at h
    cases isDir <;> cases h
  | ok place =>
    obtain ⟨hdir', hplace⟩ := hpruned.resolve_join_eq_ok hdir hname hr
    cases he : fs'.get? (l ++ [name]) with
    | none =>
      have hvacant : place = .vacant l name := by rw [hplace, placeOf, he]
      subst hvacant
      unfold FileSystem.removeEntry removeDirAll removeFile at h
      rw [hr] at h
      cases isDir <;> cases h
    | some e =>
      have hentry : place = .entry (l ++ [name]) e := by rw [hplace, placeOf, he]
      subst hentry
      unfold FileSystem.removeEntry removeDirAll removeFile at h
      rw [hr] at h
      cases isDir with
      | false => cases e <;> cases h <;> exact Or.inl rfl
      | true =>
        cases e with
        | file _ _ => cases h
        | device => cases h
        | link _ =>
          cases h
          exact Or.inl rfl
        | dir bits =>
          have hemptied := hpruned.trans (.removeBelow fs' (isBelow_concat l name))
          have hself : (fs'.removeBelow (l ++ [name])).get? (l ++ [name]) = some (.dir bits) := by
            rw [get?_removeBelow, if_neg (by simp [isBelow]), he]
          simp only [if_true] at h
          cases hagain : (fs'.removeBelow (l ++ [name])).resolve here false (Pathname.join path name) with
          | error e =>
            rw [hagain] at h
            cases h
            refine Or.inr ⟨rfl, fun found hfound => ?_⟩
            obtain ⟨at_, e⟩ := found
            obtain ⟨rfl, rfl⟩ := hemptied.locate_eq hdir hfound
            rw [resolve_join hdir' hname (by simp)] at hr
            rw [resolve_join hfound hname (by simp)] at hagain
            split at hagain
            · cases hagain
            · rename_i hlong
              rw [if_neg hlong] at hr
              cases hr
          | ok place =>
            obtain ⟨-, hplace'⟩ := hemptied.resolve_join_eq_ok hdir hname hagain
            rw [placeOf, hself] at hplace'
            subst hplace'
            rw [hagain] at h
            cases h
            exact Or.inl (remove_removeBelow fs' _)

/-- **What is removed is below the directory.** -/
theorem removeEntry {isDir : Bool} (hname : Ordinary name)
    (h : fs'.removeEntry here isDir (Pathname.join path name) = .ok fs'') : Pruned l fs' fs'' := by
  obtain rfl | ⟨rfl, -⟩ := hpruned.removeEntry_cases hdir hname h
  · exact .remove fs' (isBelow_concat l name)
  · exact .removeBelow fs' (isBelow_concat l name)

/-- What has been removed under a name is gone, if the path name still leads somewhere later. -/
theorem get?_of_removeEntry {isDir : Bool} {later : FileSystem} (hname : Ordinary name)
    (h : fs'.removeEntry here isDir (Pathname.join path name) = .ok fs'') (hlater : Pruned l fs'' later)
    {found : Location × Entry} (hfound : later.locate here path = .ok found) :
    later.get? (l ++ [name]) = none := by
  obtain rfl | ⟨rfl, hnowhere⟩ := hpruned.removeEntry_cases hdir hname h
  · cases he : later.get? (l ++ [name]) with
    | none => rfl
    | some e =>
      have hold := hlater.old _ e he
      rw [get?_remove (by simp), if_pos (by simp)] at hold
      cases hold
  · obtain ⟨e', hbefore, -⟩ := hlater.keeps.locate (l := found.1) (e := found.2) hfound
    exact absurd hbefore (hnowhere _)

end Directory

end Pruned

/-- **Removing an entry** under a path name that does not lead through it. -/
theorem removeEntry_join (hdir : fs.locate here path = .ok (l, .dir mode)) (hname : Ordinary name)
    (he : fs.get? (l ++ [name]) = some e)
    (hempty : (fs.removeBelow (l ++ [name])).locate here path = .ok (l, .dir mode)) :
    fs.removeEntry here e.isDir (Pathname.join path name) =
      if Fits path name then .ok (fs.remove (l ++ [name])) else .error (.os .nameTooLong) := by
  have hself : (fs.removeBelow (l ++ [name])).get? (l ++ [name]) = some e := by
    rw [get?_removeBelow, if_neg (by simp [isBelow]), he]
  have hplace : fs.placeOf l name = .entry (l ++ [name]) e := by rw [placeOf, he]
  have hplace' : (fs.removeBelow (l ++ [name])).placeOf l name = .entry (l ++ [name]) e := by
    rw [placeOf, hself]
  unfold FileSystem.removeEntry removeDirAll removeFile
  rw [resolve_join hdir hname (by simp), hplace]
  by_cases hfits : Fits path name
  · simp only [if_pos hfits]
    cases e with
    | dir bits =>
      simp only [Entry.isDir, if_true]
      rw [resolve_join hempty hname (by simp), if_pos hfits, hplace']
      exact congrArg Except.ok (remove_removeBelow fs _)
    | file _ _ => rfl
    | link _ => rfl
    | device => rfl
  · simp only [if_neg hfits, ite_self]

end Checkout.FileSystem
