import Checkout.FileSystem.Basic
import Checkout.Proofs.FileSystem.Pathname

/-!
# Entries after a change

What stands at a location once an entry has been put somewhere or entries have been removed. Files are
written and directories are made in places that are free, and a file that is written again stays a
file: so most changes keep what was there (`Keeps`), and whatever was found before is found again.

Results:
* `get?_put_of_ne`, `get?_remove`, `get?_removeBelow`: one equation for each change;
* `Keeps.trans`, `keeps_put`: changes that keep what was there.
-/

namespace Checkout

namespace FileSystem

variable {fs fs' fs'' : FileSystem} {l at_ : Location} {e e' : Entry}

/-! ## Look-up -/

/-- Entries that are dropped by their locations. -/
theorem lookup_filter (p : Location → Bool) (entries : List (Location × Entry)) (l : Location) :
    (entries.filter fun x => p x.1).lookup l = if p l then entries.lookup l else none := by
  induction entries with
  | nil => simp
  | cons x rest ih =>
    obtain ⟨k, v⟩ := x
    by_cases hk : l = k
    · subst hk
      by_cases hp : p l <;> simp [hp, ih]
    · have hne : (l == k) = false := by simpa using hk
      by_cases hp : p k <;> simp [hp, List.lookup_cons, hne, ih]

theorem mem_of_lookup {entries : List (Location × Entry)} (h : entries.lookup l = some e) :
    (l, e) ∈ entries := by
  induction entries with
  | nil => simp at h
  | cons x rest ih =>
    obtain ⟨k, v⟩ := x
    by_cases hk : l = k
    · subst hk
      simp only [List.lookup_cons_self, Option.some.injEq] at h
      simp [h]
    · have hne : (l == k) = false := by simpa using hk
      rw [List.lookup_cons, hne] at h
      exact List.mem_cons_of_mem _ (ih h)

theorem get?_of_ne_nil (h : l ≠ []) : fs.get? l = fs.entries.lookup l := by
  rw [get?, if_neg h]

theorem mem_of_get? (hl : l ≠ []) (h : fs.get? l = some e) : (l, e) ∈ fs.entries := by
  rw [get?_of_ne_nil hl] at h
  exact mem_of_lookup h

/-- A link stands at a location that has a name. -/
theorem mem_of_get?_link {target : ByteString} (h : fs.get? l = some (.link target)) :
    (l, .link target) ∈ fs.entries := by
  refine mem_of_get? ?_ h
  rintro rfl
  simp [get?] at h

theorem exists_get?_of_mem (hl : l ≠ []) (h : (l, e) ∈ fs.entries) : ∃ e', fs.get? l = some e' := by
  rw [get?_of_ne_nil hl]
  have hkey : fs.entries.lookup l ≠ none := by
    rw [Ne, List.lookup_eq_none_iff]
    intro hnone
    simpa using hnone _ h
  exact Option.ne_none_iff_exists'.mp hkey

theorem get?_put_self (h : l ≠ []) : (fs.put l e).get? l = some e := by
  simp [get?, put, h]

theorem get?_put_of_ne (h : at_ ≠ l) : (fs.put l e).get? at_ = fs.get? at_ := by
  have hne : (at_ == l) = false := by simpa using h
  have hdropped := lookup_filter (fun k => decide (k ≠ l)) fs.entries at_
  simp only [get?, put, List.lookup_cons, hne, hdropped]
  simp [h]

/-- What was put somewhere is forgotten when something else is put there. -/
theorem put_put : (fs.put l e).put l e' = fs.put l e' := by
  simp [put]

theorem get?_removeBelow :
    (fs.removeBelow l).get? at_ = if isBelow l at_ then none else fs.get? at_ := by
  have hdropped := lookup_filter (fun k => !isBelow l k) fs.entries at_
  by_cases hat : at_ = []
  · subst hat
    cases l <;> simp [get?, isBelow]
  · simp only [get?, removeBelow, if_neg hat]
    rw [hdropped]
    by_cases hb : isBelow l at_ = true <;> simp [hb]

theorem get?_remove (hl : l ≠ []) :
    (fs.remove l).get? at_ = if l.isPrefixOf at_ then none else fs.get? at_ := by
  have hdropped := lookup_filter (fun k => !l.isPrefixOf k) fs.entries at_
  by_cases hat : at_ = []
  · subst hat
    cases l with
    | nil => exact absurd rfl hl
    | cons name rest => simp [get?]
  · simp only [get?, remove, if_neg hat]
    rw [hdropped]
    by_cases hp : l.isPrefixOf at_ = true <;> simp [hp]

theorem isBelow_iff {outer inner : Location} : isBelow outer inner = true ↔ outer <+: inner ∧ inner ≠ outer := by
  unfold isBelow
  rw [Bool.and_eq_true, List.isPrefixOf_iff_prefix, bne_iff_ne]
  exact and_congr_right fun _ => ne_comm

theorem isBelow_concat (l : Location) (name : ByteString) : isBelow l (l ++ [name]) = true := by
  rw [isBelow_iff]
  exact ⟨List.prefix_append _ _, by simp⟩

/-- What is below something further down is below. -/
theorem isBelow_of_append {outer more inner : Location} (h : isBelow (outer ++ more) inner = true) :
    isBelow outer inner = true := by
  obtain ⟨hfront, hother⟩ := isBelow_iff.mp h
  refine isBelow_iff.mpr ⟨(List.prefix_append outer more).trans hfront, ?_⟩
  rintro rfl
  have hmore := hfront.length_le
  rw [List.length_append] at hmore
  have hnil : more = [] := List.eq_nil_of_length_eq_zero (by omega)
  exact hother (by rw [hnil, List.append_nil])

theorem isBelow_of_prefix_of_isBelow {outer mid inner : Location} (h : isBelow outer mid = true)
    (hinner : mid <+: inner) : isBelow outer inner = true := by
  obtain ⟨hfront, hother⟩ := isBelow_iff.mp h
  refine isBelow_iff.mpr ⟨hfront.trans hinner, ?_⟩
  rintro rfl
  exact hother (hinner.eq_of_length (Nat.le_antisymm hinner.length_le hfront.length_le))

theorem isBelow_trans {outer mid inner : Location} (h : isBelow outer mid = true)
    (h' : isBelow mid inner = true) : isBelow outer inner = true :=
  isBelow_of_prefix_of_isBelow h (isBelow_iff.mp h').1

/-- Nothing stands below a location if there are no entries there. -/
theorem get?_eq_none_of_below {at_ : Location} (h : fs.below l = []) (hat : isBelow l at_ = true) :
    fs.get? at_ = none := by
  cases he : fs.get? at_ with
  | none => rfl
  | some e =>
    have hne : at_ ≠ [] := by
      rintro rfl
      obtain ⟨hfront, hother⟩ := isBelow_iff.mp hat
      exact hother (List.prefix_nil.mp hfront).symm
    have hmem : (at_, e) ∈ fs.below l := List.mem_filter.mpr ⟨mem_of_get? hne he, hat⟩
    simp [h] at hmem

/-- The names in a directory are those of its entries. -/
theorem mem_childNames {name : ByteString} (h : name ∈ fs.childNames l) :
    ∃ e, (l ++ [name], e) ∈ fs.entries := by
  unfold childNames at h
  obtain ⟨⟨k, e⟩, hk, hname⟩ := List.mem_filterMap.mp h
  dsimp only at hname
  by_cases hdir : k.dropLast = l
  · rw [if_pos hdir] at hname
    obtain ⟨front, rfl⟩ := List.getLast?_eq_some_iff.mp hname
    rw [List.dropLast_concat] at hdir
    exact ⟨e, hdir ▸ hk⟩
  · rw [if_neg hdir] at hname
    cases hname

end FileSystem

/-! ## What is kept -/

/-- What an entry is, without its content and its permission bits. -/
def Entry.kind : Entry → Entry
  | .file _ _ => .file [] 0
  | .dir _ => .dir 0
  | e => e

theorem Entry.isDir_of_kind_eq {e e' : Entry} (h : e.kind = e'.kind) : e.isDir = e'.isDir := by
  cases e <;> cases e' <;> simp_all [Entry.kind, Entry.isDir]

theorem Entry.isFile_of_kind_eq {e e' : Entry} (h : e.kind = e'.kind) : e.isFile = e'.isFile := by
  cases e <;> cases e' <;> simp_all [Entry.kind, Entry.isFile]

theorem Entry.isLink_of_kind_eq {e e' : Entry} (h : e.kind = e'.kind) : e.isLink = e'.isLink := by
  cases e <;> cases e' <;> simp_all [Entry.kind, Entry.isLink]

theorem Entry.eq_link_of_kind_eq {e : Entry} {target : ByteString} (h : e.kind = .link target) :
    e = .link target := by
  cases e <;> simp_all [Entry.kind]

@[simp] theorem Entry.kind_withMode (mode : Nat) (e : Entry) : (e.withMode mode).kind = e.kind := by
  cases e <;> rfl

namespace FileSystem

variable {fs fs' fs'' : FileSystem} {l : Location} {e e' : Entry}

/-- Everything is still there, as the kind of entry that it was. -/
def Keeps (fs fs' : FileSystem) : Prop :=
  ∀ l e, fs.get? l = some e → ∃ e', fs'.get? l = some e' ∧ e'.kind = e.kind

theorem Keeps.refl (fs : FileSystem) : Keeps fs fs := fun _ e h => ⟨e, h, rfl⟩

theorem Keeps.trans (h : Keeps fs fs') (h' : Keeps fs' fs'') : Keeps fs fs'' := by
  intro l e hl
  obtain ⟨e', hl', hkind⟩ := h l e hl
  obtain ⟨e'', hl'', hkind'⟩ := h' l e' hl'
  exact ⟨e'', hl'', hkind'.trans hkind⟩

/-- Putting an entry keeps everything if the place was free or held an entry of that kind. -/
theorem keeps_put (h : ∀ old, fs.get? l = some old → e.kind = old.kind) : Keeps fs (fs.put l e) := by
  intro at_ old hold
  by_cases hat : at_ = l
  · subst hat
    by_cases hroot : at_ = []
    · subst hroot
      exact ⟨old, by simpa [get?] using hold, rfl⟩
    · exact ⟨e, get?_put_self hroot, h old hold⟩
  · exact ⟨old, by rw [get?_put_of_ne hat, hold], rfl⟩

/-! ## Names that can stand in a directory -/

/-- A name that an entry of a directory can have. -/
structure Ordinary (name : ByteString) : Prop where
  plain : Pathname.Plain name
  notCurrent : name ≠ "."
  notParent : name ≠ ".."

instance (name : ByteString) : Decidable (Ordinary name) :=
  decidable_of_iff
    ((name ≠ "" ∧ Pathname.slash ∉ name.toList ∧ Pathname.nul ∉ name.toList) ∧ name ≠ "." ∧ name ≠ "..")
    ⟨fun ⟨⟨hne, hslash, hnul⟩, hdot, hdots⟩ => ⟨⟨hne, hslash, hnul⟩, hdot, hdots⟩,
      fun ⟨⟨hne, hslash, hnul⟩, hdot, hdots⟩ => ⟨⟨hne, hslash, hnul⟩, hdot, hdots⟩⟩

/-- Every entry has a name that an entry can have. -/
def Named (fs : FileSystem) : Prop := ∀ x ∈ fs.entries, ∀ name ∈ x.1, Ordinary name

instance (fs : FileSystem) : Decidable fs.Named :=
  inferInstanceAs (Decidable (∀ x ∈ fs.entries, ∀ name ∈ x.1, Ordinary name))

theorem Named.put (h : fs.Named) (hl : ∀ name ∈ l, Ordinary name) : (fs.put l e).Named := by
  intro x hx
  rcases List.mem_cons.mp hx with rfl | hx
  · exact hl
  · exact h x (List.mem_filter.mp hx).1

theorem Named.location (h : fs.Named) (hl : fs.get? l = some e) : ∀ name ∈ l, Ordinary name := by
  by_cases hroot : l = []
  · simp [hroot]
  · exact h _ (mem_of_get? hroot hl)

theorem Named.childNames (h : fs.Named) {name : ByteString} (hname : name ∈ fs.childNames l) :
    Ordinary name := by
  obtain ⟨e, he⟩ := mem_childNames hname
  exact h _ he name (by simp)

end FileSystem

end Checkout
