import Checkout.Proofs.FileSystem.Locate

/-!
# Changes under a name in a directory

What the operations do to a path name that is a name seen from a directory: they change what stands in
the directory under this name and nothing else, or they fail because the name does not fit.

Results:
* `writeBytes_join`, `makeDirs_join`, `setMode_of_locate`: one equation for each operation;
* `locate_put_of_free`, `childNames_put_of_free`: what does not change when something new is put somewhere.
-/

namespace Checkout.FileSystem

variable {fs : FileSystem} {here l : Location} {dir name : ByteString} {e : Entry} {mode : Nat}

/-- A directory stays where it is when something is put under a name in it. -/
theorem locate_put_child (hdir : fs.locate here dir = .ok (l, .dir mode))
    (hkind : ∀ old, fs.get? (l ++ [name]) = some old → e.kind = old.kind) :
    (fs.put (l ++ [name]) e).locate here dir = .ok (l, .dir mode) := by
  exact (keeps_put hkind).locate_eq hdir (get?_put_of_ne (by simp))

/-- What was put under a name in a directory is located there. -/
theorem locate_put_join (hdir : fs.locate here dir = .ok (l, .dir mode)) (hname : Ordinary name)
    (hkind : ∀ old, fs.get? (l ++ [name]) = some old → e.kind = old.kind) (hlink : e.isLink = false)
    (hfits : Fits dir name) :
    (fs.put (l ++ [name]) e).locate here (Pathname.join dir name) = .ok (l ++ [name], e) := by
  have hself : (fs.put (l ++ [name]) e).get? (l ++ [name]) = some e := get?_put_self (by simp)
  exact (locate_join_iff (locate_put_child hdir hkind) hname (by simp [hself, hlink])).mpr
    ⟨hfits, rfl, hself⟩

theorem setMode_of_locate {path : ByteString} (h : fs.locate here path = .ok (l, e)) (mode : Nat) :
    fs.setMode here path mode = .ok (fs.put l (e.withMode mode)) := by
  unfold setMode
  rw [h]
  rfl

/-- The permission bits of a file that is written over what stands in its place. -/
def bitsOver : Option Entry → Nat
  | some (.file _ bits) => bits
  | _ => newFileMode

/-- **Writing under a name** in a directory where nothing or a file stands. -/
theorem writeBytes_join (hdir : fs.locate here dir = .ok (l, .dir mode)) (hname : Ordinary name)
    (hfree : (fs.get? (l ++ [name])).all Entry.isFile = true) (content : List UInt8) :
    fs.writeBytes here (Pathname.join dir name) content =
      if Fits dir name then
        .ok (fs.put (l ++ [name]) (.file content (bitsOver (fs.get? (l ++ [name])))))
      else .error (.os .nameTooLong) := by
  obtain ⟨⟨hpath, -⟩, -⟩ := locate_eq_ok_iff.mp hdir
  have hends := Pathname.endsWithSlash_join (Pathname.isPathname_iff.mp hpath).1 hname.plain
  have hlink : (fs.get? (l ++ [name])).any Entry.isLink = false := by
    cases he : fs.get? (l ++ [name]) with
    | none => rfl
    | some e => cases e <;> simp_all [Entry.isFile, Entry.isLink]
  unfold writeBytes
  rw [resolve_join hdir hname fun _ => hlink]
  by_cases hfits : Fits dir name
  · rw [if_pos hfits, if_pos hfits, placeOf]
    cases he : fs.get? (l ++ [name]) with
    | none => rfl
    | some e =>
      cases e with
      | file old bits => simp [hends, bitsOver]
      | dir _ => simp [he, Entry.isFile] at hfree
      | link _ => simp [he, Entry.isFile] at hfree
      | device => simp [he, Entry.isFile] at hfree
  · rw [if_neg hfits, if_neg hfits]

theorem bare_of_not_endsWithSlash {path : ByteString} (h : Pathname.endsWithSlash path = false) :
    Pathname.bare path = path := by
  unfold Pathname.bare
  unfold Pathname.endsWithSlash at h
  rw [List.getLast?_eq_head?_reverse] at h
  cases hr : path.toList.reverse with
  | nil => simp [← ByteString.toList_inj, List.reverse_eq_nil_iff.mp hr]
  | cons c rest =>
    have hc : (c == Pathname.slash) = false := by simpa [hr] using h
    have hback : path.toList = (c :: rest).reverse := by rw [← hr, List.reverse_reverse]
    rw [List.dropWhile_cons, hc, if_neg (by decide), ← hback, ByteString.ofList_toList]

theorem makeDir_join (hdir : fs.locate here dir = .ok (l, .dir mode)) (hname : Ordinary name)
    (hlink : (fs.get? (l ++ [name])).any Entry.isLink = false) :
    fs.makeDir here (Pathname.join dir name) =
      if Fits dir name then
        match fs.get? (l ++ [name]) with
        | none => .ok (fs.put (l ++ [name]) (.dir newDirMode))
        | some _ => .error (.os .exists)
      else .error (.os .nameTooLong) := by
  obtain ⟨⟨hpath, -⟩, -⟩ := locate_eq_ok_iff.mp hdir
  have hne := (Pathname.isPathname_iff.mp hpath).1
  have hbare := bare_of_not_endsWithSlash (Pathname.endsWithSlash_join hne hname.plain)
  unfold makeDir Pathname.withoutSlash
  rw [hbare, ite_self, resolve_join hdir hname fun _ => hlink]
  by_cases hfits : Fits dir name
  · rw [if_pos hfits, if_pos hfits, placeOf]
    cases fs.get? (l ++ [name]) <;> rfl
  · rw [if_neg hfits, if_neg hfits]

/-- **Making a directory under a name** in a directory where nothing stands or a directory does. -/
theorem makeDirs_join (hdir : fs.locate here dir = .ok (l, .dir mode)) (hname : Ordinary name)
    (hfree : (fs.get? (l ++ [name])).all Entry.isDir = true) :
    fs.makeDirs here (Pathname.join dir name) =
      if Fits dir name then
        (if (fs.get? (l ++ [name])).isNone then fs.put (l ++ [name]) (.dir newDirMode) else fs, none)
      else (fs, some (.os .nameTooLong)) := by
  obtain ⟨⟨hpath, -⟩, -⟩ := locate_eq_ok_iff.mp hdir
  have hne := Pathname.join_ne_empty (Pathname.isPathname_iff.mp hpath).1
    (Pathname.not_isAbsolute_of_plain hname.plain)
  have hlink : (fs.get? (l ++ [name])).any Entry.isLink = false := by
    cases he : fs.get? (l ++ [name]) with
    | none => rfl
    | some e => cases e <;> simp_all [Entry.isDir, Entry.isLink]
  unfold makeDirs makeDirsFrom
  rw [if_neg hne, makeDir_join hdir hname hlink]
  by_cases hfits : Fits dir name
  · rw [if_pos hfits, if_pos hfits]
    cases he : fs.get? (l ++ [name]) with
    | none => rfl
    | some e =>
      have hthere := (locate_join_iff hdir hname hlink).mpr ⟨hfits, rfl, he⟩
      have hisDir : fs.isDir here (Pathname.join dir name) = true := by
        unfold isDir
        rw [hthere]
        simpa [he] using hfree
      simp [hisDir]
  · rw [if_neg hfits, if_neg hfits]
    have hisDir : fs.isDir here (Pathname.join dir name) = false := by
      unfold isDir locate
      rw [resolve_join hdir hname fun _ => hlink, if_neg hfits]
    simp [hisDir]

/-- A directory that was made under a name is there, and nothing else has changed: what is put there next
makes up for the difference. -/
theorem exists_made (hdir : fs.locate here dir = .ok (l, .dir mode)) (hname : Ordinary name)
    (hfree : (fs.get? (l ++ [name])).all Entry.isDir = true) (hfits : Fits dir name) :
    ∃ made bits, fs.makeDirs here (Pathname.join dir name) = (made, none) ∧
      made.locate here (Pathname.join dir name) = .ok (l ++ [name], .dir bits) ∧
      ∀ e, made.put (l ++ [name]) e = fs.put (l ++ [name]) e := by
  rw [makeDirs_join hdir hname hfree, if_pos hfits]
  cases hold : fs.get? (l ++ [name]) with
  | none =>
    refine ⟨_, newDirMode, rfl, ?_, fun e => put_put⟩
    exact locate_put_join hdir hname (by simp [hold]) rfl hfits
  | some old =>
    cases old with
    | dir bits =>
      exact ⟨fs, bits, rfl, (locate_join_iff hdir hname (by simp [hold, Entry.isLink])).mpr
        ⟨hfits, rfl, hold⟩, fun _ => rfl⟩
    | file _ _ => simp [hold, Entry.isDir] at hfree
    | link _ => simp [hold, Entry.isDir] at hfree
    | device => simp [hold, Entry.isDir] at hfree

/-! ## Places that were free -/

section Free

variable {at_ : Location}

/-- What was found is found as it was when something is put where nothing stood. -/
theorem locate_put_of_free {path : ByteString} {old : Entry} (hfree : fs.get? at_ = none)
    (hfound : fs.locate here path = .ok (l, old)) : (fs.put at_ e).locate here path = .ok (l, old) := by
  have hne : l ≠ at_ := by
    rintro rfl
    rw [(locate_eq_ok_iff.mp hfound).2.1] at hfree
    cases hfree
  exact (keeps_put fun other hother => by rw [hfree] at hother; cases hother).locate_eq hfound
    (get?_put_of_ne hne)

/-- Something new comes before everything else. -/
theorem put_of_free (hfree : fs.get? at_ = none) : fs.put at_ e = ⟨(at_, e) :: fs.entries⟩ := by
  have hne : at_ ≠ [] := by
    rintro rfl
    cases hfree
  have hall : ∀ x ∈ fs.entries, decide (x.1 ≠ at_) = true := by
    rintro ⟨k, old⟩ hk
    refine decide_eq_true ?_
    rintro rfl
    obtain ⟨e', he'⟩ := exists_get?_of_mem hne hk
    rw [hfree] at he'
    cases he'
  unfold put
  rw [List.filter_eq_self.mpr hall]

/-- **The names in a directory** when something is put under a name that was free. -/
theorem childNames_put_of_free {Q : Location} (hfree : fs.get? (l ++ [name]) = none) :
    (fs.put (l ++ [name]) e).childNames Q =
      if Q = l then name :: fs.childNames Q else fs.childNames Q := by
  rw [put_of_free hfree]
  unfold childNames
  by_cases hQ : Q = l
  · subst hQ
    simp
  · simp [hQ, Ne.symm hQ]

end Free

end Checkout.FileSystem
