import Checkout.Proofs.FileSystem.Removal
import Mathlib.Data.List.Induction
import Mathlib.Data.List.Nodup

/-!
# Files as a tree

What stands somewhere is held by a directory, and so on up to the root. So below a place where nothing
stands there is nothing either (`Closed`), and what is below a directory is at or below one of its entries. To
remove these one after another is to empty the directory.

Results:
* `WellFormed.closed`: below nothing there is nothing;
* `foldl_remove_childNames`: a directory is emptied entry by entry;
* `Pruned.locate_eq_noEntry`: in what is left a path name leads where it led, or to nothing.
-/

namespace Checkout.FileSystem

variable {fs fs' : FileSystem} {admits : Location → Bool} {here l at_ : Location} {n links : Nat}
  {names : List ByteString} {path name : ByteString} {e : Entry} {mode : Nat}

/-! ## What holds an entry -/

instance (fs : FileSystem) : Decidable fs.WellFormed :=
  decidable_of_iff ((fs.entries.map Prod.fst).Nodup ∧ ∀ l ∈ fs.entries.map Prod.fst,
      l ≠ [] ∧ (fs.get? l.dropLast).any Entry.isDir = true) <| by
    refine and_congr_right fun _ => forall₂_congr fun l _ => and_congr_right fun _ => ?_
    cases fs.get? l.dropLast with
    | none => simp
    | some e => cases e <;> simp [Entry.isDir]

/-- Below a place where nothing stands there is nothing. -/
def Closed (fs : FileSystem) : Prop :=
  ∀ outer inner, outer <+: inner → fs.get? outer = none → fs.get? inner = none

/-- What holds an entry is a directory. -/
theorem WellFormed.get?_parent (h : fs.WellFormed) (he : fs.get? (l ++ [name]) = some e) :
    ∃ mode, fs.get? l = some (.dir mode) := by
  have hmem := List.mem_map_of_mem (f := Prod.fst) (mem_of_get? (by simp) he)
  obtain ⟨-, mode, hparent⟩ := h.2 _ hmem
  rw [List.dropLast_concat] at hparent
  exact ⟨mode, hparent⟩

/-- Every entry of the list is what stands at its location. -/
theorem WellFormed.get?_of_mem (h : fs.WellFormed) (hmem : (l, e) ∈ fs.entries) : fs.get? l = some e := by
  obtain ⟨hne, -⟩ := h.2 l (List.mem_map_of_mem hmem)
  obtain ⟨front, back, hentries⟩ := List.append_of_mem hmem
  have hnodup := h.1
  rw [hentries, List.map_append, List.map_cons, List.nodup_middle, List.nodup_cons] at hnodup
  rw [get?_of_ne_nil hne, List.lookup_eq_some_iff]
  refine ⟨front, back, hentries, fun x hx => bne_iff_ne.mpr fun heq => hnodup.1 ?_⟩
  exact List.mem_append_left _ (List.mem_map.mpr ⟨x, hx, heq.symm⟩)

/-- What is below a location is what stands there. -/
theorem WellFormed.mem_below_iff (h : fs.WellFormed) :
    (at_, e) ∈ fs.below l ↔ fs.get? at_ = some e ∧ isBelow l at_ = true := by
  unfold below
  rw [List.mem_filter]
  refine and_congr_left fun hbelow => ⟨h.get?_of_mem, mem_of_get? ?_⟩
  rintro rfl
  obtain ⟨hfront, hother⟩ := FileSystem.isBelow_iff.mp hbelow
  exact hother (List.prefix_nil.mp hfront).symm

theorem WellFormed.closed (h : fs.WellFormed) : fs.Closed := by
  rintro outer _ ⟨more, rfl⟩ hnone
  induction more using List.reverseRecOn with
  | nil => rwa [List.append_nil]
  | append_singleton more name ih =>
    cases he : fs.get? (outer ++ (more ++ [name])) with
    | none => rfl
    | some e =>
      rw [← List.append_assoc] at he
      obtain ⟨mode, hparent⟩ := h.get?_parent he
      rw [ih] at hparent
      cases hparent

theorem Closed.removeBelow (h : fs.Closed) (l : Location) : (fs.removeBelow l).Closed := by
  intro outer inner hfront hnone
  rw [get?_removeBelow] at hnone ⊢
  by_cases hinner : isBelow l inner = true
  · rw [if_pos hinner]
  · rw [if_neg hinner]
    refine h outer inner hfront ?_
    rwa [if_neg fun houter => hinner (isBelow_of_prefix_of_isBelow houter hfront)] at hnone

theorem Closed.remove (h : fs.Closed) (hl : l ≠ []) : (fs.remove l).Closed := by
  intro outer inner hfront hnone
  simp only [get?_remove hl, List.isPrefixOf_iff_prefix] at hnone ⊢
  by_cases hinner : l <+: inner
  · rw [if_pos hinner]
  · rw [if_neg hinner]
    refine h outer inner hfront ?_
    rwa [if_neg fun houter => hinner (houter.trans hfront)] at hnone

/-- An entry that is held by a directory leaves the files closed. -/
theorem Closed.put (h : fs.Closed) (hdir : fs.get? l ≠ none) : (fs.put (l ++ [name]) e).Closed := by
  intro outer inner hfront hnone
  by_cases houter : outer = l ++ [name]
  · subst houter
    rw [get?_put_self (by simp)] at hnone
    cases hnone
  rw [get?_put_of_ne houter] at hnone
  by_cases hinner : inner = l ++ [name]
  · subst hinner
    rcases List.prefix_concat_iff.mp hfront with heq | hfront
    · exact absurd heq houter
    · exact absurd (h _ _ hfront hnone) hdir
  · rw [get?_put_of_ne hinner]
    exact h _ _ hfront hnone

/-- What holds something is there. -/
theorem Closed.get?_ne_none (h : fs.Closed) (hfront : l <+: at_) (hat : fs.get? at_ ≠ none) :
    fs.get? l ≠ none :=
  fun hnone => hat (h _ _ hfront hnone)

/-! ## The entries of a directory -/

/-- **The names in a directory** are those under which something stands there. -/
theorem mem_childNames_iff : name ∈ fs.childNames l ↔ fs.get? (l ++ [name]) ≠ none := by
  constructor
  · intro hname
    obtain ⟨e, he⟩ := mem_childNames hname
    obtain ⟨e', he'⟩ := exists_get?_of_mem (by simp) he
    rw [he']
    exact Option.some_ne_none e'
  · intro hthere
    obtain ⟨e, he⟩ := Option.ne_none_iff_exists'.mp hthere
    refine List.mem_filterMap.mpr ⟨_, mem_of_get? (by simp) he, ?_⟩
    simp

theorem mem_childNames_congr {fs' : FileSystem} (h : ∀ l, fs'.get? l = fs.get? l) :
    name ∈ fs'.childNames l ↔ name ∈ fs.childNames l := by
  rw [mem_childNames_iff, mem_childNames_iff, h]

theorem WellFormed.nodup_childNames (h : fs.WellFormed) (l : Location) : (fs.childNames l).Nodup := by
  have hmap : fs.childNames l =
      (fs.entries.map Prod.fst).filterMap fun at_ => if at_.dropLast = l then at_.getLast? else none := by
    rw [List.filterMap_map]
    rfl
  have hback : ∀ {at_ : Location} {name}, name ∈ (if at_.dropLast = l then at_.getLast? else none) →
      at_ = l ++ [name] := by
    intro at_ name hname
    split at hname
    · rename_i hdir
      obtain ⟨front, rfl⟩ := List.getLast?_eq_some_iff.mp hname
      rw [List.dropLast_concat] at hdir
      rw [hdir]
    · cases hname
  rw [hmap]
  exact h.1.filterMap fun _ _ _ hname hname' => (hback hname).trans (hback hname').symm

/-- What is below a directory is at or below one of its entries. -/
theorem Closed.isBelow_iff (h : fs.Closed) (hat : fs.get? at_ ≠ none) :
    isBelow l at_ = true ↔ ∃ name ∈ fs.childNames l, l ++ [name] <+: at_ := by
  constructor
  · intro hbelow
    obtain ⟨⟨more, rfl⟩, hother⟩ := FileSystem.isBelow_iff.mp hbelow
    cases more with
    | nil => exact absurd (List.append_nil l) hother
    | cons name more =>
      have hfront : l ++ [name] <+: l ++ name :: more := ⟨more, by simp⟩
      exact ⟨name, mem_childNames_iff.mpr (h.get?_ne_none hfront hat), hfront⟩
  · rintro ⟨name, -, hfront⟩
    exact isBelow_of_prefix_of_isBelow (isBelow_concat l name) hfront

theorem foldl_remove (fs : FileSystem) (l : Location) (names : List ByteString) :
    names.foldl (fun fs name => fs.remove (l ++ [name])) fs =
      ⟨fs.entries.filter fun x => names.all fun name => !(l ++ [name]).isPrefixOf x.1⟩ := by
  induction names generalizing fs with
  | nil => simp
  | cons name names ih =>
    rw [List.foldl_cons, ih, remove, List.filter_filter]
    simp only [List.all_cons, Bool.and_comm]

/-- **A directory is emptied entry by entry.** -/
theorem foldl_remove_childNames (h : fs.WellFormed) (l : Location) :
    (fs.childNames l).foldl (fun fs name => fs.remove (l ++ [name])) fs = fs.removeBelow l := by
  rw [foldl_remove]
  refine congrArg FileSystem.mk (List.filter_congr fun x hx => ?_)
  have hat : fs.get? x.1 ≠ none := by
    obtain ⟨hne, -⟩ := h.2 x.1 (List.mem_map_of_mem hx)
    obtain ⟨e, he⟩ := exists_get?_of_mem (e := x.2) hne hx
    rw [he]
    exact Option.some_ne_none e
  rw [Bool.eq_iff_iff, List.all_eq_true, Bool.not_eq_true', ← Bool.not_eq_true, h.closed.isBelow_iff hat]
  simp [← List.isPrefixOf_iff_prefix]

/-! ## Walks through what is left -/

/-- A walk that comes to nothing: something on its way is missing. -/
def ComesToNothing : Except Errno Place → Prop
  | .error errno => errno = .noEntry
  | .ok (.vacant _ _) => True
  | .ok (.entry _ _) => False

/-- Where there are no new entries a walk comes to where it came, or to nothing. -/
theorem Trail.walk_of_fewer (h : Trail fs admits n here names l) (hn : n ≤ links)
    (hold : ∀ at_ e, fs'.get? at_ = some e → fs.get? at_ = some e) (hclosed : fs'.Closed)
    (hhere : fs'.get? here ≠ none) :
    (∃ e, fs'.walk true admits links here names = .ok (.entry l e)) ∨
      ComesToNothing (fs'.walk true admits links here names) := by
  have hdir' : ∀ {dir}, (fs.get? dir).any Entry.isDir = true → fs'.get? dir ≠ none →
      (fs'.get? dir).any Entry.isDir = true := by
    intro dir hdir hthere
    obtain ⟨e, he⟩ := Option.ne_none_iff_exists'.mp hthere
    rwa [he, ← hold _ _ he]
  induction h generalizing links with
  | @stop here e he =>
    obtain ⟨e', he'⟩ := Option.ne_none_iff_exists'.mp hhere
    exact Or.inl ⟨e', by rw [walk, leg, he']⟩
  | @stay n here l name rest hname hdir _ ih =>
    have hleg : fs'.leg true admits here (name :: rest) = fs'.leg true admits here rest := by
      rw [leg, hdir' hdir hhere, if_neg (by decide), if_pos hname]
    rw [walk_eq_of_leg_eq hleg]
    exact ih hn hhere
  | @up n here l name rest hname hdir _ ih =>
    have hleg : fs'.leg true admits here (name :: rest) = fs'.leg true admits here.dropLast rest := by
      rw [leg, hdir' hdir hhere, if_neg (by decide), if_neg (hname ▸ by decide), if_pos hname]
    rw [walk_eq_of_leg_eq hleg]
    exact ih hn (hclosed.get?_ne_none (List.dropLast_prefix here) hhere)
  | @down n here l name rest e hasks he hlink _ ih =>
    have hasks' : Asks fs' admits here name := { hasks with isDir := hdir' hasks.isDir hhere }
    cases he' : fs'.get? (here ++ [name]) with
    | none =>
      right
      rw [walk, leg_of_asks hasks', he']
      cases rest <;> trivial
    | some e' =>
      have hsame := hold _ _ he'
      rw [he] at hsame
      cases hsame
      have hleg : fs'.leg true admits here (name :: rest) = fs'.leg true admits (here ++ [name]) rest := by
        rw [leg_of_asks hasks', he']
        cases e <;> first | rfl | cases hlink
      rw [walk_eq_of_leg_eq hleg]
      exact ih hn (by rw [he']; exact Option.some_ne_none e)
  | @link n here l name target rest hasks he htarget _ ih =>
    obtain ⟨links, rfl⟩ : ∃ k, links = k + 1 := ⟨links - 1, by omega⟩
    have hasks' : Asks fs' admits here name := { hasks with isDir := hdir' hasks.isDir hhere }
    cases he' : fs'.get? (here ++ [name]) with
    | none =>
      right
      rw [walk, leg_of_asks hasks', he']
      cases rest <;> trivial
    | some e' =>
      have hsame := hold _ _ he'
      rw [he] at hsame
      cases hsame
      rw [walk, leg_of_asks hasks', he']
      dsimp only
      rw [if_neg (by simp [htarget])]
      refine ih (by omega) ?_
      unfold startOf
      split
      · simp [get?]
      · exact hhere

/-- **In what is left a path name leads where it led**, or to nothing. -/
theorem Pruned.locate_eq_noEntry (h : Pruned at_ fs fs') (hclosed : fs'.Closed)
    (hstart : isBelow at_ (startOf here path) = false) (hfound : fs.locate here path = .ok (l, e)) :
    fs'.locate here path = .ok (l, e) ∨ fs'.locate here path = .error (.os .noEntry) := by
  obtain ⟨haskable, he, n, hn, htrail⟩ := locate_eq_ok_iff.mp hfound
  have hhere : fs'.get? (startOf here path) ≠ none := by
    obtain ⟨e', he'⟩ := htrail.exists_entry
    rw [h.same _ hstart, he']
    exact Option.some_ne_none e'
  unfold locate
  rw [resolve_of_askable haskable]
  obtain ⟨e', hwalk⟩ | hnothing := htrail.walk_of_fewer hn h.old hclosed hhere
  · have hsame := h.old _ _ (get?_of_walk hwalk)
    rw [he] at hsame
    cases hsame
    rw [hwalk]
    exact Or.inl rfl
  · right
    cases hw : fs'.walk true AnyLocation maxLinks (startOf here path) (Pathname.parts path) with
    | error errno =>
      rw [hw] at hnothing
      cases hnothing
      rfl
    | ok place =>
      rw [hw] at hnothing
      cases place with
      | entry l e => exact hnothing.elim
      | vacant dir name => rfl

end Checkout.FileSystem
