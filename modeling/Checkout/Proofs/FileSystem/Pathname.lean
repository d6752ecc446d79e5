import Checkout.FileSystem.Pathname
import Checkout.Proofs.Text.ByteString
import Checkout.Proofs.Text.Pieces

/-!
# The names in a joined path name

A path name is walked name by name, so what matters of `join` is which names its result has.

Results:
* `names_join`: the names of a joined path name are those of its two parts;
* `plain_of_mem_parts`: what a path name is walked by is plain;
* `foldl_join_spec`, `parts_foldl_join`, `parts_join`: plain names that are joined one after another;
* `names_bare`, `names_parent`: a path name that is cut has no names but its own.
-/

namespace Checkout.Pathname

/-- The separator as a byte string. -/
@[simp] theorem toList_separator : ("/" : ByteString).toList = [slash] := rfl

@[simp] theorem nul_ne_slash : nul ≠ slash := by decide

/-! ## Names between slashes -/

theorem splitSlashes_ne_nil (cs : List UInt8) : splitSlashes cs ≠ [] := by
  cases cs with
  | nil => exact List.cons_ne_nil _ _
  | cons c rest =>
    unfold splitSlashes
    by_cases hc : c = slash
    · rw [if_pos hc]
      exact List.cons_ne_nil _ _
    · rw [if_neg hc]
      cases splitSlashes rest <;> exact List.cons_ne_nil _ _

theorem splitSlashes_cons (c : UInt8) (rest : List UInt8) :
    splitSlashes (c :: rest) =
      if c = slash then [] :: splitSlashes rest
      else
        match splitSlashes rest with
        | first :: more => (c :: first) :: more
        | [] => [[c]] := rfl

theorem splitSlashes_append (as bs : List UInt8) :
    splitSlashes (as ++ slash :: bs) = splitSlashes as ++ splitSlashes bs := by
  induction as with
  | nil => rfl
  | cons c as ih =>
    rw [List.cons_append, splitSlashes_cons, splitSlashes_cons, ih]
    by_cases hc : c = slash
    · rw [if_pos hc, if_pos hc, List.cons_append]
    · rw [if_neg hc, if_neg hc]
      cases hs : splitSlashes as with
      | nil => exact absurd hs (splitSlashes_ne_nil as)
      | cons first more => rfl

theorem splitSlashes_of_not_mem {cs : List UInt8} (h : slash ∉ cs) : splitSlashes cs = [cs] := by
  induction cs with
  | nil => rfl
  | cons c cs ih =>
    rw [List.mem_cons, not_or] at h
    rw [splitSlashes_cons, if_neg (Ne.symm h.1), ih h.2]

/-- What stands between slashes holds no slash, and only characters of the whole. -/
theorem mem_of_mem_splitSlashes {cs part : List UInt8} (h : part ∈ splitSlashes cs) :
    ∀ c ∈ part, c ∈ cs ∧ c ≠ slash := by
  induction cs generalizing part with
  | nil =>
    rw [splitSlashes, List.mem_singleton] at h
    subst h
    intro c hc
    cases hc
  | cons a cs ih =>
    rw [splitSlashes_cons] at h
    by_cases ha : a = slash
    · rw [if_pos ha] at h
      intro c hc
      rcases List.mem_cons.mp h with rfl | h
      · cases hc
      · exact ⟨List.mem_cons_of_mem _ (ih h c hc).1, (ih h c hc).2⟩
    · rw [if_neg ha] at h
      cases hs : splitSlashes cs with
      | nil => exact absurd hs (splitSlashes_ne_nil cs)
      | cons first more =>
        rw [hs] at h ih
        intro c hc
        rcases List.mem_cons.mp h with rfl | h
        · rcases List.mem_cons.mp hc with rfl | hc
          · exact ⟨List.mem_cons_self, ha⟩
          · exact ⟨List.mem_cons_of_mem _ (ih List.mem_cons_self c hc).1,
              (ih List.mem_cons_self c hc).2⟩
        · exact ⟨List.mem_cons_of_mem _ (ih (List.mem_cons_of_mem _ h) c hc).1,
            (ih (List.mem_cons_of_mem _ h) c hc).2⟩

/-- The names in a list of characters. -/
theorem names_eq (path : ByteString) :
    names path = ((splitSlashes path.toList).filter (!·.isEmpty)).map ByteString.ofList := rfl

theorem names_of_toList {path a b : ByteString} (h : path.toList = a.toList ++ slash :: b.toList) :
    names path = names a ++ names b := by
  rw [names_eq, names_eq, names_eq, h, splitSlashes_append, List.filter_append, List.map_append]

/-! ## Plain names -/

/-- A name that can stand between slashes in a path name. -/
structure Plain (name : ByteString) : Prop where
  ne_empty : name ≠ ""
  noSlash : slash ∉ name.toList
  noNul : nul ∉ name.toList

theorem plain_dot : Plain "." := ⟨by decide, by decide, by decide⟩

theorem plain_of_mem_names {path name : ByteString} (hnul : nul ∉ path.toList)
    (h : name ∈ names path) : Plain name := by
  rw [names_eq, List.mem_map] at h
  obtain ⟨part, hpart, rfl⟩ := h
  rw [List.mem_filter] at hpart
  obtain ⟨hpart, hne⟩ := hpart
  have hchars := mem_of_mem_splitSlashes hpart
  refine ⟨?_, ?_, ?_⟩
  · intro hempty
    have : part = [] := by
      have h := congrArg ByteString.toList hempty
      rwa [ByteString.toList_ofList] at h
    rw [this] at hne
    exact absurd hne (by decide)
  · rw [ByteString.toList_ofList]
    exact fun hmem => (hchars _ hmem).2 rfl
  · rw [ByteString.toList_ofList]
    exact fun hmem => hnul (hchars _ hmem).1

theorem names_of_plain {name : ByteString} (h : Plain name) : names name = [name] := by
  have hne : name.toList ≠ [] := fun hnil => h.ne_empty (ByteString.toList_eq_nil_iff.mp hnil)
  rw [names_eq, splitSlashes_of_not_mem h.noSlash]
  simp [hne]

theorem not_isAbsolute_of_plain {name : ByteString} (h : Plain name) : isAbsolute name = false := by
  unfold isAbsolute
  cases hn : name.toList with
  | nil => rfl
  | cons c cs =>
    have hc : c ≠ slash := by
      intro hc
      exact h.noSlash (by rw [hn, hc]; exact List.mem_cons_self)
    simp [hc]

theorem not_endsWithSlash_of_plain {name : ByteString} (h : Plain name) : endsWithSlash name = false := by
  unfold endsWithSlash
  rw [beq_eq_false_iff_ne]
  intro hlast
  exact h.noSlash (List.mem_of_getLast? hlast)

/-- The path name is walked by its names, and perhaps a dot at the end. -/
theorem parts_eq (path : ByteString) :
    ∃ tail, parts path = names path ++ tail ∧ (tail = [] ∨ tail = [("." : ByteString)]) := by
  unfold parts
  by_cases h : (endsWithSlash path && !(names path).isEmpty) = true
  · rw [if_pos h]
    exact ⟨[("." : ByteString)], rfl, Or.inr rfl⟩
  · rw [if_neg h]
    exact ⟨[], (List.append_nil _).symm, Or.inl rfl⟩

/-- **What a path name is walked by is plain.** -/
theorem plain_of_mem_parts {path name : ByteString} (hnul : nul ∉ path.toList)
    (h : name ∈ parts path) : Plain name := by
  obtain ⟨tail, hparts, htail⟩ := parts_eq path
  rw [hparts, List.mem_append] at h
  rcases h with h | h
  · exact plain_of_mem_names hnul h
  · rcases htail with rfl | rfl
    · cases h
    · rw [List.mem_singleton] at h
      exact h ▸ plain_dot

theorem isPathname_iff {text : ByteString} :
    isPathname text = true ↔ text ≠ "" ∧ nul ∉ text.toList := by
  unfold isPathname
  rw [Bool.and_eq_true]
  simp

theorem not_parent_of_mem_names {p name : ByteString} (hp : .parent ∉ components p)
    (h : name ∈ names p) : name ≠ ".." := by
  rintro rfl
  refine hp ?_
  have hmem : Component.parent ∈
      ((names p).filter (· ≠ ("." : ByteString))).map Component.ofName :=
    List.mem_map.mpr ⟨"..", List.mem_filter.mpr ⟨h, by decide⟩, by decide⟩
  unfold components
  dsimp only
  split
  · exact List.mem_cons_of_mem _ hmem
  · split
    · exact List.mem_cons_of_mem _ hmem
    · exact hmem

/-! ## Joined path names -/

variable {base path : ByteString}

theorem join_cases (hbase : base ≠ "") (hrel : isAbsolute path = false) :
    (endsWithSlash base = true ∧ join base path = base ++ path) ∨
      (endsWithSlash base = false ∧ join base path = base ++ "/" ++ path) := by
  unfold join
  cases hs : endsWithSlash base with
  | true =>
    left
    rw [hrel]
    exact ⟨rfl, by simp⟩
  | false =>
    right
    rw [hrel]
    exact ⟨rfl, by simp [hbase]⟩

theorem exists_of_endsWithSlash (h : endsWithSlash base = true) :
    ∃ front : ByteString, base.toList = front.toList ++ [slash] := by
  unfold endsWithSlash at h
  obtain ⟨front, hfront⟩ := List.getLast?_eq_some_iff.mp (beq_iff_eq.mp h)
  exact ⟨ByteString.ofList front, by rw [ByteString.toList_ofList, hfront]⟩

theorem mem_join_left {b : UInt8} (hrel : isAbsolute path = false) (h : b ∈ base.toList) :
    b ∈ (join base path).toList := by
  unfold join
  rw [if_neg (by simp [hrel])]
  split_ifs <;> simp [h]

theorem mem_join_right {b : UInt8} (h : b ∈ path.toList) : b ∈ (join base path).toList := by
  unfold join
  split_ifs <;> simp [h]

/-- **The names of a joined path name** are those of its parts. -/
theorem names_join (hbase : base ≠ "") (hrel : isAbsolute path = false) :
    names (join base path) = names base ++ names path := by
  rcases join_cases hbase hrel with ⟨hs, hjoin⟩ | ⟨-, hjoin⟩
  · obtain ⟨front, hfront⟩ := exists_of_endsWithSlash hs
    have hbaseNames : names base = names front ++ names "" :=
      names_of_toList (by rw [hfront]; rfl)
    have hwhole : names (join base path) = names front ++ names path :=
      names_of_toList (by rw [hjoin, ByteString.toList_append, hfront, List.append_assoc]; rfl)
    rw [hwhole, hbaseNames]
    exact congrArg (· ++ names path) (List.append_nil _).symm
  · exact names_of_toList (by rw [hjoin]; simp)

theorem join_ne_empty (hbase : base ≠ "") (hrel : isAbsolute path = false) : join base path ≠ "" := by
  intro h
  rcases join_cases hbase hrel with ⟨-, hjoin⟩ | ⟨-, hjoin⟩ <;> rw [hjoin] at h <;>
    simp [hbase] at h

theorem isAbsolute_join (hbase : base ≠ "") (hrel : isAbsolute path = false) :
    isAbsolute (join base path) = isAbsolute base := by
  have hne : base.toList ≠ [] := fun hnil => hbase (ByteString.toList_eq_nil_iff.mp hnil)
  unfold isAbsolute
  rcases join_cases hbase hrel with ⟨-, hjoin⟩ | ⟨-, hjoin⟩ <;> rw [hjoin] <;>
    cases hb : base.toList <;> simp_all

theorem noNul_join (hbase : base ≠ "") (hrel : isAbsolute path = false) :
    nul ∉ (join base path).toList ↔ nul ∉ base.toList ∧ nul ∉ path.toList := by
  rcases join_cases hbase hrel with ⟨-, hjoin⟩ | ⟨-, hjoin⟩ <;> rw [hjoin] <;> simp

theorem endsWithSlash_join {name : ByteString} (hbase : base ≠ "") (h : Plain name) :
    endsWithSlash (join base name) = false := by
  have hne : name.toList ≠ [] := fun hnil => h.ne_empty (ByteString.toList_eq_nil_iff.mp hnil)
  have hends := not_endsWithSlash_of_plain h
  unfold endsWithSlash at hends ⊢
  have hlast : (join base name).toList.getLast? = name.toList.getLast? := by
    rcases join_cases hbase (not_isAbsolute_of_plain h) with ⟨-, hjoin⟩ | ⟨-, hjoin⟩ <;> rw [hjoin] <;>
      simp [List.getLast?_append, List.getLast?_cons, List.getLast?_eq_some_getLast hne]
  rw [hlast]
  exact hends

/-- Plain names that are joined to a path name one after another follow its names. -/
theorem foldl_join_spec {ns : List ByteString} (hbase : base ≠ "") (h : ∀ n ∈ ns, Plain n) :
    ns.foldl join base ≠ "" ∧ names (ns.foldl join base) = names base ++ ns ∧
      isAbsolute (ns.foldl join base) = isAbsolute base ∧
      (nul ∉ base.toList → nul ∉ (ns.foldl join base).toList) := by
  induction ns generalizing base with
  | nil => exact ⟨hbase, (List.append_nil _).symm, rfl, id⟩
  | cons n ns ih =>
    have hn : Plain n := h n List.mem_cons_self
    have hrel := not_isAbsolute_of_plain hn
    obtain ⟨hne, hnames, habs, hnul⟩ :=
      ih (join_ne_empty hbase hrel) fun x hx => h x (List.mem_cons_of_mem _ hx)
    refine ⟨hne, ?_, ?_, fun hb => hnul ((noNul_join hbase hrel).mpr ⟨hb, hn.noNul⟩)⟩
    · rw [List.foldl_cons, hnames, names_join hbase hrel, names_of_plain hn, List.append_assoc,
        List.singleton_append]
    · rw [List.foldl_cons, habs, isAbsolute_join hbase hrel]

/-- No dot is added at the end: the last name does not end with a slash. -/
theorem parts_foldl_join {ns : List ByteString} {n : ByteString} (hbase : base ≠ "")
    (h : ∀ x ∈ ns ++ [n], Plain x) :
    parts ((ns ++ [n]).foldl join base) = names base ++ (ns ++ [n]) := by
  have hns : ∀ x ∈ ns, Plain x := fun x hx => h x (List.mem_append_left _ hx)
  have hn : Plain n := h n (List.mem_append_right _ List.mem_cons_self)
  obtain ⟨hfront, -, -, -⟩ := foldl_join_spec hbase hns
  have hends : endsWithSlash ((ns ++ [n]).foldl join base) = false := by
    rw [List.foldl_append]
    exact endsWithSlash_join hfront hn
  unfold parts
  rw [hends, (foldl_join_spec hbase h).2.1]
  rfl

theorem parts_join {name : ByteString} (hbase : base ≠ "") (h : Plain name) :
    parts (join base name) = names base ++ [name] := by
  have hplain : ∀ x ∈ ([] : List ByteString) ++ [name], Plain x := by simpa using h
  have hparts := parts_foldl_join hbase hplain
  rwa [List.nil_append, List.foldl_cons, List.foldl_nil] at hparts

/-! ## Path names that are cut -/

theorem names_ofList (as bs : List UInt8) :
    names (ByteString.ofList (as ++ slash :: bs)) =
      names (ByteString.ofList as) ++ names (ByteString.ofList bs) :=
  names_of_toList rfl

theorem names_ofList_slash (cs : List UInt8) :
    names (ByteString.ofList (cs ++ [slash])) = names (ByteString.ofList cs) := by
  rw [names_ofList]
  exact List.append_nil _

/-- Slashes at the end do not count. -/
theorem names_bare (path : ByteString) : names (bare path) = names path := by
  have hdrop : ∀ cs : List UInt8,
      names (ByteString.ofList (cs.dropWhile (· == slash)).reverse) = names (ByteString.ofList cs.reverse) := by
    intro cs
    induction cs with
    | nil => rfl
    | cons c cs ih =>
      by_cases hc : c = slash
      · subst hc
        rw [List.reverse_cons, names_ofList_slash, ← ih]
        rfl
      · rw [List.dropWhile_cons_of_neg (by simpa using hc)]
  unfold bare
  rw [hdrop, List.reverse_reverse, ByteString.ofList_toList]

/-- Dropping something idle at the end of a path name cuts its names short, if it changes them. -/
theorem names_dropIdle (fuel : Nat) (cs : List UInt8) :
    names (ByteString.ofList (dropIdle fuel cs).reverse) <+: names (ByteString.ofList cs.reverse) := by
  induction fuel generalizing cs with
  | zero => exact List.prefix_refl _
  | succ fuel ih =>
    cases cs with
    | nil => exact List.prefix_refl _
    | cons c rest =>
      unfold dropIdle
      by_cases hslash : c = slash
      · subst hslash
        rw [if_pos rfl, List.reverse_cons, names_ofList_slash]
        cases rest with
        | nil => exact List.nil_prefix
        | cons d rest => exact ih (d :: rest)
      · rw [if_neg hslash]
        by_cases hdot : c = dot ∧ rest.head? = some slash
        · obtain ⟨rfl, hhead⟩ := hdot
          obtain ⟨more, rfl⟩ := List.head?_eq_some_iff.mp hhead
          rw [if_pos ⟨rfl, rfl⟩, List.reverse_cons]
          refine (ih _).trans ?_
          rw [List.reverse_cons, names_ofList_slash, List.append_assoc]
          change names _ <+: names (ByteString.ofList (more.reverse ++ slash :: [dot]))
          rw [names_ofList]
          exact List.prefix_append _ _
        · simp only [if_neg hdot, List.prefix_refl]

/-- **The names of the parent** begin the names of the path name. -/
theorem names_parent {path parent : ByteString} (h : parent? path = some parent) :
    names parent <+: names path := by
  have hcut : ∀ cs : List UInt8, names (ByteString.ofList (cs.dropWhile (· ≠ slash)).reverse) <+:
      names (ByteString.ofList cs.reverse) := by
    intro cs
    have hwhole := List.takeWhile_append_dropWhile (p := (· ≠ slash)) (l := cs)
    cases hback : cs.dropWhile (· ≠ slash) with
    | nil => exact List.nil_prefix
    | cons c rest =>
      have hc : c = slash := by
        simpa using Text.head_dropWhile (· ≠ slash) cs c (by rw [hback]; rfl)
      subst hc
      rw [hback] at hwhole
      rw [← hwhole, List.reverse_append, List.reverse_cons, List.append_assoc, names_ofList_slash]
      change _ <+: names (ByteString.ofList (rest.reverse ++ slash :: _))
      rw [names_ofList]
      exact List.prefix_append _ _
  have hreversed :
      names (ByteString.ofList (dropIdle path.length path.toList.reverse).reverse) <+: names path := by
    have hidle := names_dropIdle path.length path.toList.reverse
    rwa [List.reverse_reverse, ByteString.ofList_toList] at hidle
  unfold parent? at h
  split at h
  · cases h
  · cases h
  · cases h
    exact (names_dropIdle _ _).trans ((hcut _).trans hreversed)

end Checkout.Pathname
