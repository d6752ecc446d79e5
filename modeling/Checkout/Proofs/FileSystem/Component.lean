import Checkout.Proofs.FileSystem.Pathname

/-!
# The components of a joined path name

The segments of a path name are the texts between its slashes, empty ones included. Components are what
remains of them when empty segments and inner dots are dropped. A relative path name without double dots
that is joined to another one adds names to it and takes nothing away.

Results:
* `components_eq`: the components of a path name are its steps, and what says where they start;
* `parent_mem_components_iff`: a path name climbs just if one of its segments is a double dot;
* `components_join`: what is joined to a path name comes after its components;
* `exists_components_join`: without double dots it is names, and perhaps a dot.
-/

namespace Checkout.Pathname

variable {base path : ByteString}

/-! ## Segments -/

/-- The texts between the slashes of a path name. -/
def segments (path : ByteString) : List ByteString := (path.toList.splitOn slash).map ByteString.ofList

theorem splitSlashes_eq_splitOn (cs : List UInt8) : splitSlashes cs = cs.splitOn slash := by
  induction cs with
  | nil => rw [splitSlashes, List.splitOn_nil]
  | cons c cs ih =>
    rw [splitSlashes_cons, List.splitOn_cons_eq_if_modifyHead, ← ih]
    by_cases hc : c = slash
    · rw [if_pos hc, if_pos (by simpa using hc)]
    · rw [if_neg hc, if_neg (by simpa using hc)]
      cases hs : splitSlashes cs with
      | nil => exact absurd hs (splitSlashes_ne_nil cs)
      | cons first more => rfl

/-- The names of a path name are its segments that are not empty. -/
theorem names_eq_filter (path : ByteString) :
    names path = (segments path).filter (· ≠ ("" : ByteString)) := by
  rw [names_eq, splitSlashes_eq_splitOn, segments, List.filter_map]
  congr 1
  refine List.filter_congr fun part _ => ?_
  cases part with
  | nil => rfl
  | cons c part =>
    have hne : ByteString.ofList (c :: part) ≠ "" := fun hempty => by
      have hchars := congrArg ByteString.toList hempty
      rw [ByteString.toList_ofList] at hchars
      cases hchars
    exact (decide_eq_true hne).symm

/-! ## Components -/

/-- The segments of a path name that lead somewhere: those that are neither empty nor a dot. -/
def steps (path : ByteString) : List ByteString := (segments path).filter fun name => name ≠ "" ∧ name ≠ "."

theorem steps_eq_filter_names (path : ByteString) :
    steps path = (names path).filter (· ≠ ("." : ByteString)) := by
  rw [names_eq_filter, List.filter_filter, steps]
  refine List.filter_congr fun name _ => ?_
  rw [Bool.decide_and, Bool.and_comm]

theorem mem_steps_iff {name : ByteString} :
    name ∈ steps path ↔ name ∈ segments path ∧ name ≠ "" ∧ name ≠ "." := by
  rw [steps, List.mem_filter, decide_eq_true_iff]

/-- The components of a path name: its steps, and what says where they start. -/
theorem components_eq (path : ByteString) :
    components path =
      (if isAbsolute path then [.root]
        else if (names path).head? = some ("." : ByteString) then [.current] else []) ++
        (steps path).map Component.ofName := by
  unfold components
  rw [steps_eq_filter_names]
  dsimp only
  split
  · rfl
  · split <;> rfl

theorem parent_mem_map_ofName {texts : List ByteString} :
    .parent ∈ texts.map Component.ofName ↔ (".." : ByteString) ∈ texts := by
  rw [List.mem_map]
  constructor
  · rintro ⟨text, hmem, htext⟩
    unfold Component.ofName at htext
    split at htext
    · rename_i hup
      exact hup ▸ hmem
    · cases htext
  · exact fun hmem => ⟨"..", hmem, by decide⟩

/-- **A path name climbs** just if one of its segments is a double dot. -/
theorem parent_mem_components_iff : .parent ∈ components path ↔ (".." : ByteString) ∈ segments path := by
  have hsteps : (".." : ByteString) ∈ steps path ↔ (".." : ByteString) ∈ segments path := by
    rw [mem_steps_iff]
    exact and_iff_left ⟨by decide, by decide⟩
  rw [components_eq, List.mem_append, parent_mem_map_ofName, hsteps, or_iff_right]
  split
  · decide
  · split <;> decide

/-! ## Joining -/

/-- A path name that is not empty and not absolute has a name. -/
theorem names_ne_nil (hne : path ≠ "") (hrel : isAbsolute path = false) : names path ≠ [] := by
  have hchars : path.toList ≠ [] := fun hnil => hne (ByteString.toList_eq_nil_iff.mp hnil)
  unfold isAbsolute at hrel
  cases hp : path.toList with
  | nil => exact absurd hp hchars
  | cons c cs =>
    have hc : c ≠ slash := by
      rintro rfl
      rw [hp] at hrel
      cases hrel
    rw [names_eq, hp, splitSlashes_cons, if_neg hc]
    cases splitSlashes cs <;> simp

/-- **What is joined to a path name** comes after its components: those are the steps of a relative path
name. -/
theorem components_join (hbase : base ≠ "") (hrel : isAbsolute path = false) :
    components (join base path) = components base ++ (steps path).map Component.ofName := by
  have hsteps : steps (join base path) = steps base ++ steps path := by
    rw [steps_eq_filter_names, names_join hbase hrel, List.filter_append, ← steps_eq_filter_names,
      ← steps_eq_filter_names]
  rw [components_eq, components_eq base, isAbsolute_join hbase hrel, hsteps, List.map_append,
    List.append_assoc]
  cases habs : isAbsolute base with
  | true => rfl
  | false =>
    -- A relative path name starts with its first name, whatever follows.
    cases hn : names base with
    | nil => exact absurd hn (names_ne_nil hbase habs)
    | cons first more =>
      rw [names_join hbase hrel, hn]
      rfl

theorem map_ofName_eq {texts : List ByteString} (h : (".." : ByteString) ∉ texts) :
    texts.map Component.ofName = texts.map Component.name := by
  refine List.map_congr_left fun text htext => ?_
  have hup : text ≠ ".." := by
    rintro rfl
    exact h htext
  unfold Component.ofName
  rw [if_neg hup]

/-- **A relative path name without double dots adds names**, all of its steps in their order, and a dot
before them at most. -/
theorem exists_components_join (base : ByteString) (hrel : isAbsolute path = false)
    (hup : (".." : ByteString) ∉ segments path) :
    ∃ lead, (lead = [] ∨ lead = [Component.current]) ∧
      components (join base path) = components base ++ (lead ++ (steps path).map Component.name) := by
  have hnames : (steps path).map Component.ofName = (steps path).map Component.name :=
    map_ofName_eq fun hmem => hup (mem_steps_iff.mp hmem).1
  by_cases hbase : base = ""
  · subst hbase
    have hjoin : join "" path = path := by
      unfold join
      rw [hrel]
      simp
    refine ⟨if (names path).head? = some ("." : ByteString) then [.current] else [], ?_, ?_⟩
    · split
      · exact Or.inr rfl
      · exact Or.inl rfl
    · rw [hjoin, components_eq path, hrel, hnames]
      rfl
  · refine ⟨[], Or.inl rfl, ?_⟩
    rw [components_join hbase hrel, hnames, List.nil_append]

end Checkout.Pathname
