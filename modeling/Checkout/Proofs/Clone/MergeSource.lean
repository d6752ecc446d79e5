import Checkout.Clone.MergeSource
import Mathlib.Data.List.Infix

/-!
# Which URLs name one repository

A base is a URL that ends neither in a slash nor in `.git`. The URLs with a base for their normal form are
its four spellings: with or without `.git`, and with or without a slash behind it. Both endings are taken off
once and in this order, so a URL with an ending twice is a spelling of no base.

Results:
* `withoutEnding_eq_iff`: what a list was before an ending was taken off;
* `normalizeUrl_eq_iff`, `eq_of_mem_spellings`: the spellings of a base, and of one base only;
* `selectMergeRemote_eq_originRemote_iff`: when the merge source is the origin;
* `same_repository_iff_spellings`: all of it.
-/

namespace Checkout

/-! ## Endings -/

theorem withoutEnding_append (ending cs : List Char) : withoutEnding ending (cs ++ ending) = cs := by
  unfold withoutEnding
  rw [if_pos (List.isSuffixOf_iff_suffix.mpr (List.suffix_append cs ending)), List.length_append,
    Nat.add_sub_cancel, List.take_left]

theorem withoutEnding_of_not_suffix {ending cs : List Char} (h : ¬ ending <:+ cs) :
    withoutEnding ending cs = cs :=
  if_neg fun hends => h (List.isSuffixOf_iff_suffix.mp hends)

/-- **What a list was** before an ending was taken off: itself, or the list with the ending. -/
theorem withoutEnding_eq_iff {ending b cs : List Char} (h : ¬ ending <:+ b) :
    withoutEnding ending cs = b ↔ cs = b ∨ cs = b ++ ending := by
  constructor
  · rintro rfl
    by_cases hends : ending <:+ cs
    · obtain ⟨front, rfl⟩ := hends
      rw [withoutEnding_append]
      exact Or.inr rfl
    · rw [withoutEnding_of_not_suffix hends]
      exact Or.inl rfl
  · rintro (rfl | rfl)
    · exact withoutEnding_of_not_suffix h
    · exact withoutEnding_append ending b

/-! ## Spellings -/

/-- A URL that ends neither in a slash nor in `.git`. -/
def IsBase (b : String) : Prop := ¬ ['/'] <:+ b.toList ∧ ¬ ".git".toList <:+ b.toList

instance (b : String) : Decidable (IsBase b) := inferInstanceAs (Decidable (_ ∧ _))

/-- The spellings of a base. -/
def spellings (b : String) : List String := [b, b ++ "/", b ++ ".git", b ++ ".git/"]

variable {b u v origin : String}

theorem not_slash_suffix_git (cs : List Char) : ¬ ['/'] <:+ cs ++ ".git".toList := by
  intro h
  obtain ⟨front, hfront⟩ := h
  have hlast := congrArg List.getLast? hfront
  simp at hlast

theorem normalizeUrl_eq_toList_iff : normalizeUrl u = b ↔ normalizeUrlList u.toList = b.toList := by
  unfold normalizeUrl
  rw [← String.toList_inj, String.toList_ofList]

/-- **The spellings of a base** are the URLs with this normal form. -/
theorem normalizeUrl_eq_iff (h : IsBase b) : normalizeUrl u = b ↔ u ∈ spellings b := by
  obtain ⟨hslash, hgit⟩ := h
  rw [normalizeUrl_eq_toList_iff]
  unfold normalizeUrlList
  rw [withoutEnding_eq_iff hgit, withoutEnding_eq_iff hslash, withoutEnding_eq_iff (not_slash_suffix_git _)]
  simp only [spellings, List.mem_cons, List.not_mem_nil, or_false, ← String.toList_inj, String.toList_append,
    or_assoc, List.append_assoc]
  rfl

/-- A URL is a spelling of one base at most. -/
theorem eq_of_mem_spellings {b' : String} (h : IsBase b) (h' : IsBase b') (hu : u ∈ spellings b)
    (hu' : u ∈ spellings b') : b = b' :=
  ((normalizeUrl_eq_iff h).mpr hu).symm.trans ((normalizeUrl_eq_iff h').mpr hu')

theorem normalizeUrl_eq_normalizeUrl_iff (h : IsBase b) (hu : u ∈ spellings b) :
    normalizeUrl v = normalizeUrl u ↔ v ∈ spellings b := by
  rw [(normalizeUrl_eq_iff h).mpr hu, normalizeUrl_eq_iff h]

/-! ## The remote -/

theorem selectMergeRemote_some_iff :
    selectMergeRemote origin (some v) = Defaults.originRemote ↔
      v = "" ∨ normalizeUrl v = normalizeUrl origin := by
  have hother : Defaults.mergeSourceRemote ≠ Defaults.originRemote := by decide
  unfold selectMergeRemote
  rw [Option.filter_some]
  by_cases hempty : v = ""
  · simp [hempty]
  · by_cases hsame : normalizeUrl v = normalizeUrl origin
    · simp [hempty, hsame]
    · simp [hempty, hsame, hother]

/-- **When the merge source is the origin.** -/
theorem selectMergeRemote_eq_originRemote_iff {source : Option String} :
    selectMergeRemote origin source = Defaults.originRemote ↔
      source = none ∨ source = some "" ∨
        ∃ s, source = some s ∧ normalizeUrl s = normalizeUrl origin := by
  cases source with
  | none => exact iff_of_true rfl (Or.inl rfl)
  | some s => simp [selectMergeRemote_some_iff]

/-- URLs that are not empty name one repository if the origin is reused for one when the other is it. -/
theorem equivalence_selectMergeRemote :
    Equivalence fun u v : { url : String // url ≠ "" } =>
      selectMergeRemote u (some v) = Defaults.originRemote := by
  have hsame : ∀ u v : { url : String // url ≠ "" },
      selectMergeRemote u (some v) = Defaults.originRemote ↔ normalizeUrl v = normalizeUrl u :=
    fun u v => selectMergeRemote_some_iff.trans (or_iff_right v.property)
  refine ⟨fun u => (hsame u u).mpr rfl, fun {u v} h => ?_, fun {u v w} h h' => ?_⟩
  · exact (hsame v u).mpr ((hsame u v).mp h).symm
  · exact (hsame u w).mpr (((hsame v w).mp h').trans ((hsame u v).mp h))

/-- **Which URLs name one repository.** The URLs whose normal form is a base are its four spellings. Origin is
reused just if there is no merge source, or an empty one, or its normal form is the one of the origin. For
URLs that are not empty this is an equivalence. A spelling of a base, as the origin or as the source, goes
together with the spellings of this base and with nothing else, an empty source apart; and the spellings of
another base are other URLs. -/
theorem same_repository_iff_spellings {b : String} (hb : IsBase b) :
    (∀ u, normalizeUrl u = b ↔ u ∈ spellings b) ∧
    (∀ origin source, selectMergeRemote origin source = Defaults.originRemote ↔
      source = none ∨ source = some "" ∨
        ∃ s, source = some s ∧ normalizeUrl s = normalizeUrl origin) ∧
    (Equivalence fun u v : { url : String // url ≠ "" } =>
      selectMergeRemote u (some v) = Defaults.originRemote) ∧
    (∀ u ∈ spellings b, ∀ v,
      (selectMergeRemote u (some v) = Defaults.originRemote ↔ v = "" ∨ v ∈ spellings b) ∧
      (selectMergeRemote v (some u) = Defaults.originRemote ↔ u = "" ∨ v ∈ spellings b)) ∧
    ∀ b', IsBase b' → b' ≠ b → ∀ v ∈ spellings b', v ∉ spellings b := by
  refine ⟨fun u => normalizeUrl_eq_iff hb, fun origin source => selectMergeRemote_eq_originRemote_iff,
    equivalence_selectMergeRemote, fun u hu v => ⟨?_, ?_⟩,
    fun b' hb' hne v hv' hv => hne (eq_of_mem_spellings hb' hb hv' hv)⟩
  · rw [selectMergeRemote_some_iff, normalizeUrl_eq_normalizeUrl_iff hb hu]
  · rw [selectMergeRemote_some_iff, eq_comm (a := normalizeUrl u), normalizeUrl_eq_normalizeUrl_iff hb hu]

/-- A base, its longest spelling as the source, and a URL with `.git` twice. -/
theorem same_repository_of_git_and_slash :
    IsBase "https://e.org/x" ∧
      selectMergeRemote "https://e.org/x/" (some "https://e.org/x.git/") = "origin" ∧
      selectMergeRemote "https://e.org/x.git/" (some "https://e.org/x.git.git") ≠ "origin" := by
  have hbase : IsBase "https://e.org/x" := by decide
  obtain ⟨-, -, -, hremote, -⟩ := same_repository_iff_spellings hbase
  refine ⟨hbase, (hremote _ (by decide) _).1.mpr (Or.inr (by decide)), fun hsame => ?_⟩
  exact absurd ((hremote _ (by decide) _).1.mp hsame) (by decide)

end Checkout
