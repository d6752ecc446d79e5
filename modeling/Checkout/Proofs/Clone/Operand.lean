import Checkout.Proofs.Clone.MergeFlow

/-!
# Texts of a request among the words of git

A checkout hands six texts of its request on to git as they are: the source, the sparse directories, the
refspec, the submodule paths, the merge source and the target branch. They stand at the end of their
command lines, after the words of the program, and no `--` of the program parts them from its options.
What begins with a dash there is an option to git.

Results:
* `exists_line`: every item of a plan is one of the split lines of the request;
* `mem_options_of_own`: the words of the program that begin with a dash are its options;
* `operand_reads_as_option_iff`: which texts of a request git reads as options.
-/

namespace Checkout

/-! ## Dashes -/

/-- A word begins with a dash. -/
def Dashed (word : String) : Prop := word.toList.head? = some '-'

instance (word : String) : Decidable (Dashed word) := inferInstanceAs (Decidable (_ = _))

/-- Git reads a word as an option: it begins with a dash and no `--` stands before it. -/
def ReadsAsOption (before : List String) (word : String) : Prop := Dashed word ∧ "--" ∉ before

/-- Whether a word begins with a dash is seen at its first part. -/
theorem dashed_append {front : String} (h : front ≠ "") (back : String) :
    Dashed (front ++ back) ↔ Dashed front := by
  have hne : front.toList ≠ [] := by
    intro hnil
    exact h (String.toList_eq_nil_iff.mp hnil)
  unfold Dashed
  rw [String.toList_append, List.head?_append_of_ne_nil _ hne]

/-! ## Split lines -/

/-- A command line in two parts. -/
structure SplitLine where
  /-- The words of the program. -/
  own : List String
  /-- The texts of the request that follow. -/
  texts : List String

def SplitLine.args (line : SplitLine) : List String := line.own ++ line.texts

namespace CloneRequest

/-- The option for the length of a short commit. -/
def shortOption (r : CloneRequest) : String :=
  if r.shortCommitLength = 0 then "--short" else s!"--short={r.shortCommitLength}"

/-- The options that the program gives to git. -/
def options (r : CloneRequest) : List String :=
  depthArgs r.depth ++ depthArgs r.mergeSourceDepth ++
    [r.shortOption, "--local", "--recurse-submodules=yes", "--update-head-ok", "--force", "--recursive",
      "--init", "--no-commit", "--no-ff", "--allow-unrelated-histories", "-m", "-1",
      "--pretty=format:%ct", "--tags", "-l"]

/-- The command lines with texts of the request at their end. -/
def operandLines (r : CloneRequest) : List SplitLine :=
  [⟨["sparse-checkout", "set"], r.sparseCheckoutDirectories⟩,
    ⟨["remote", "add", "origin"], [r.url]⟩,
    ⟨fetchLine r.submodules r.depth "origin" none, r.wanted.toList⟩,
    ⟨["submodule", "update", "--recursive", "--init", "--force"] ++ depthArgs r.depth, r.submodulePaths⟩,
    ⟨["remote", "add", "merge-source"], r.elsewhere?.toList⟩,
    ⟨fetchLine false r.mergeSourceDepth r.mergeRemote none, (given? (some r.targetBranch)).toList⟩]

/-- The command lines without such texts, where a commit names the head that is kept. -/
def plainLines (r : CloneRequest) (kept : String) : List SplitLine :=
  [⟨["init"], []⟩, ⟨["config", "--local", "core.sparseCheckout", "true"], []⟩,
    ⟨["checkout", "FETCH_HEAD"], []⟩,
    ⟨["config", "--local", "user.email", Defaults.mergeCommitEmail], []⟩,
    ⟨["config", "--local", "user.name", Defaults.mergeCommitName], []⟩,
    ⟨["rev-parse", "HEAD"], []⟩, ⟨r.mergeLine, []⟩,
    ⟨["commit", "-m", s!"Merge branch '{r.targetBranch}' from {r.mergeRemote} into {kept}"], []⟩,
    ⟨["rev-parse", r.shortOption, "HEAD"], []⟩, ⟨["log", "-1", "--pretty=format:%ct"], []⟩,
    ⟨["fetch", "--tags"], []⟩, ⟨["tag", "-l"], []⟩]

/-- All command lines of a checkout. -/
def lines (r : CloneRequest) (kept : String) : List SplitLine := r.operandLines ++ r.plainLines kept

variable {r : CloneRequest} {kept word : String} {args : List String} {line : SplitLine}

theorem fetchLine_split (submodules : Bool) (depth : Int) (remote : String) (refspec : Option String) :
    fetchLine submodules depth remote refspec =
      fetchLine submodules depth remote none ++ refspec.toList := by
  unfold fetchLine
  rw [Option.toList_none, List.append_nil]

theorem operandLine_mem (h : line ∈ r.operandLines) : line ∈ r.lines kept := List.mem_append_left _ h

theorem exists_plainLine (h : ⟨args, []⟩ ∈ r.plainLines kept) : ∃ line ∈ r.lines kept, args = line.args :=
  ⟨⟨args, []⟩, List.mem_append_right _ h, (List.append_nil _).symm⟩

theorem exists_line_of_checkout {item : PlanItem} (hitem : item ∈ r.checkoutPlan)
    (hargs : item.args? kept = some args) : ∃ line ∈ r.lines kept, args = line.args := by
  have hmem := r.checkoutPlan_subset hitem
  simp only [List.mem_cons, List.not_mem_nil, or_false] at hmem
  rcases hmem with rfl | rfl | rfl | rfl | rfl | rfl | rfl <;> obtain rfl := Option.some.inj hargs
  · exact exists_plainLine (by simp [plainLines])
  · exact exists_plainLine (by simp [plainLines])
  · exact ⟨⟨["sparse-checkout", "set"], r.sparseCheckoutDirectories⟩,
      operandLine_mem (by simp [operandLines]), rfl⟩
  · exact ⟨⟨["remote", "add", "origin"], [r.url]⟩, operandLine_mem (by simp [operandLines]), rfl⟩
  · exact ⟨⟨fetchLine r.submodules r.depth "origin" none, r.wanted.toList⟩,
      operandLine_mem (by simp [operandLines]), fetchLine_split _ _ _ _⟩
  · exact exists_plainLine (by simp [plainLines])
  · exact ⟨⟨["submodule", "update", "--recursive", "--init", "--force"] ++ depthArgs r.depth,
      r.submodulePaths⟩, operandLine_mem (by simp [operandLines]), rfl⟩

theorem exists_line_of_merge {item : PlanItem} (hitem : item ∈ r.mergePlan)
    (hargs : item.args? kept = some args) : ∃ line ∈ r.lines kept, args = line.args := by
  rw [r.mergePlan_eq] at hitem
  simp only [List.mem_append, beforeMerge, List.mem_cons, List.not_mem_nil, or_false] at hitem
  rcases hitem with (hitem | rfl | rfl | rfl | rfl) | rfl | rfl | rfl
  · obtain ⟨source, helse, rfl⟩ := List.mem_map.mp hitem
    obtain rfl := Option.some.inj hargs
    have hsource : r.elsewhere? = some source := Option.mem_toList.mp helse
    have hremote : r.mergeRemote = "merge-source" := by
      unfold mergeRemote
      rw [hsource]
    refine ⟨⟨["remote", "add", "merge-source"], r.elsewhere?.toList⟩,
      operandLine_mem (by simp [operandLines]), ?_⟩
    rw [hsource, hremote]
    rfl
  all_goals obtain rfl := Option.some.inj hargs
  · exact ⟨⟨fetchLine false r.mergeSourceDepth r.mergeRemote none, (given? (some r.targetBranch)).toList⟩,
      operandLine_mem (by simp [operandLines]), fetchLine_split _ _ _ _⟩
  all_goals exact exists_plainLine (by simp [plainLines])

theorem exists_line_of_finish {item : PlanItem} (hitem : item ∈ r.finishPlan)
    (hargs : item.args? kept = some args) : ∃ line ∈ r.lines kept, args = line.args := by
  have hmem := r.finishPlan_subset hitem
  simp only [List.mem_cons, List.not_mem_nil, or_false] at hmem
  rcases hmem with rfl | rfl | rfl | rfl | rfl | rfl
  · exact absurd hargs (by simp [PlanItem.args?])
  all_goals obtain rfl := Option.some.inj hargs
  all_goals exact exists_plainLine (by simp [plainLines, shortOption])

/-- **Every item of a plan** makes one of the split lines of the request. -/
theorem exists_line {item : PlanItem} (hitem : item ∈ r.plan) (hargs : item.args? kept = some args) :
    ∃ line ∈ r.lines kept, args = line.args := by
  rcases mem_plan hitem with hitem | ⟨-, hitem⟩ | hitem
  · exact exists_line_of_checkout hitem hargs
  · exact exists_line_of_merge hitem hargs
  · exact exists_line_of_finish hitem hargs

/-! ## The options of the program -/

theorem mem_options_of_depthArgs {depth : Int} (hdepth : depth = r.depth ∨ depth = r.mergeSourceDepth)
    (h : word ∈ depthArgs depth) : word ∈ r.options := by
  unfold options
  rcases hdepth with rfl | rfl <;> simp [h]

/-- The dashed words of a fetch, up to its refspec, are options. -/
theorem mem_options_of_fetchLine {submodules : Bool} {depth : Int} {remote : String}
    (hdepth : depth = r.depth ∨ depth = r.mergeSourceDepth) (hremote : ¬ Dashed remote)
    (h : word ∈ fetchLine submodules depth remote none) (hdash : Dashed word) : word ∈ r.options := by
  simp only [fetchLine, Option.toList_none, List.append_nil, List.mem_append, List.mem_cons,
    List.not_mem_nil, or_false] at h
  rcases h with ((rfl | hsub) | hword) | rfl | rfl | rfl
  · exact absurd hdash (by decide)
  · by_cases hsubmodules : submodules = true
    · rw [if_pos hsubmodules, List.mem_singleton] at hsub
      subst hsub
      simp [options]
    · rw [if_neg hsubmodules] at hsub
      exact absurd hsub List.not_mem_nil
  · exact mem_options_of_depthArgs hdepth hword
  · exact absurd hdash hremote
  · simp [options]
  · simp [options]

/-- Where the dashed words of a line are spelled out, it is enough that they are options. -/
theorem mem_options_of_filter {own : List String} (dashed : List String)
    (hfilter : own.filter (fun word => Dashed word) = dashed) (hsub : dashed ⊆ r.options)
    (hword : word ∈ own) (hdash : Dashed word) : word ∈ r.options := by
  have hmem : word ∈ own.filter (fun word => Dashed word) :=
    List.mem_filter.mpr ⟨hword, decide_eq_true hdash⟩
  rw [hfilter] at hmem
  exact hsub hmem

theorem not_dashed_mergeRemote (r : CloneRequest) : ¬ Dashed r.mergeRemote := by
  rcases r.mergeRemote_cases with h | h
  · rw [h]
    decide
  · rw [h]
    decide

/-- The reference that is merged starts with its remote. -/
theorem not_dashed_mergeReference (r : CloneRequest) : ¬ Dashed s!"{r.mergeRemote}/{r.targetBranch}" := by
  have hne : r.mergeRemote ≠ "" := by
    rcases r.mergeRemote_cases with h | h
    · rw [h]
      decide
    · rw [h]
      decide
  have hparts : s!"{r.mergeRemote}/{r.targetBranch}" = r.mergeRemote ++ ("/" ++ r.targetBranch) :=
    String.append_assoc
  rw [hparts, dashed_append hne]
  exact r.not_dashed_mergeRemote

/-- The message of a merge starts with a word of the program. -/
theorem not_dashed_mergeMessage (branch remote kept : String) :
    ¬ Dashed s!"Merge branch '{branch}' from {remote} into {kept}" := by
  have hparts : s!"Merge branch '{branch}' from {remote} into {kept}" =
      "Merge branch '" ++ (branch ++ ("' from " ++ (remote ++ (" into " ++ kept)))) := by
    simp only [String.append_assoc]
    rfl
  rw [hparts, dashed_append (by decide)]
  decide

theorem mem_options_of_operandLines (hline : line ∈ r.operandLines) (hword : word ∈ line.own)
    (hdash : Dashed word) : word ∈ r.options := by
  simp only [operandLines, List.mem_cons, List.not_mem_nil, or_false] at hline
  rcases hline with rfl | rfl | rfl | rfl | rfl | rfl
  · exact mem_options_of_filter [] rfl (by simp) hword hdash
  · exact mem_options_of_filter [] rfl (by simp) hword hdash
  · exact mem_options_of_fetchLine (Or.inl rfl) (by decide) hword hdash
  · rcases List.mem_append.mp hword with hword | hword
    · exact mem_options_of_filter ["--recursive", "--init", "--force"] (by decide) (by simp [options])
        hword hdash
    · exact mem_options_of_depthArgs (Or.inl rfl) hword
  · exact mem_options_of_filter [] rfl (by simp) hword hdash
  · exact mem_options_of_fetchLine (Or.inr rfl) r.not_dashed_mergeRemote hword hdash

theorem mem_options_of_plainLines (hline : line ∈ r.plainLines kept) (hword : word ∈ line.own)
    (hdash : Dashed word) : word ∈ r.options := by
  simp only [plainLines, List.mem_cons, List.not_mem_nil, or_false] at hline
  rcases hline with rfl | rfl | rfl | rfl | rfl | rfl | rfl | rfl | rfl | rfl | rfl | rfl
  · exact mem_options_of_filter [] rfl (by simp) hword hdash
  · exact mem_options_of_filter ["--local"] (by decide) (by simp [options]) hword hdash
  · exact mem_options_of_filter [] rfl (by simp) hword hdash
  · exact mem_options_of_filter ["--local"] (by decide) (by simp [options]) hword hdash
  · exact mem_options_of_filter ["--local"] (by decide) (by simp [options]) hword hdash
  · exact mem_options_of_filter [] rfl (by simp) hword hdash
  · rcases List.mem_cons.mp hword with rfl | hword
    · exact absurd hdash (by decide)
    rcases List.mem_cons.mp hword with rfl | hword
    · exact absurd hdash r.not_dashed_mergeReference
    · exact mem_options_of_filter ["--no-commit", "--no-ff", "--allow-unrelated-histories"] (by decide)
        (by simp [options]) hword hdash
  · simp only [List.mem_cons, List.not_mem_nil, or_false] at hword
    rcases hword with rfl | rfl | rfl
    · exact absurd hdash (by decide)
    · simp [options]
    · exact absurd hdash (not_dashed_mergeMessage _ _ _)
  · simp only [List.mem_cons, List.not_mem_nil, or_false] at hword
    rcases hword with rfl | rfl | rfl
    · exact absurd hdash (by decide)
    · simp [options]
    · exact absurd hdash (by decide)
  · exact mem_options_of_filter ["-1", "--pretty=format:%ct"] (by decide) (by simp [options]) hword hdash
  · exact mem_options_of_filter ["--tags"] (by decide) (by simp [options]) hword hdash
  · exact mem_options_of_filter ["-l"] (by decide) (by simp [options]) hword hdash

/-- **The words of the program that begin with a dash** are its options. -/
theorem mem_options_of_own (hline : line ∈ r.lines kept) (hword : word ∈ line.own) (hdash : Dashed word) :
    word ∈ r.options := by
  rcases List.mem_append.mp hline with hline | hline
  · exact mem_options_of_operandLines hline hword hdash
  · exact mem_options_of_plainLines hline hword hdash

/-- A longer word is not `--`. -/
theorem append_ne_dashes {front : String} (h : 2 < front.length) (back : String) : "--" ≠ front ++ back := by
  intro heq
  have hlength := congrArg String.length heq
  rw [String.length_append] at hlength
  have hdashes : "--".length = 2 := rfl
  omega

theorem dashes_not_mem_depthArgs (depth : Int) : "--" ∉ depthArgs depth := by
  unfold depthArgs
  by_cases hdepth : 0 < depth
  · rw [if_pos hdepth, List.mem_singleton]
    exact append_ne_dashes (by decide) _
  · rw [if_neg hdepth]
    exact List.not_mem_nil

/-- The program never ends its options with `--`. -/
theorem dashes_not_mem_options (r : CloneRequest) : "--" ∉ r.options := by
  have hshort : "--" ≠ r.shortOption := by
    unfold shortOption
    by_cases hzero : r.shortCommitLength = 0
    · rw [if_pos hzero]
      decide
    · rw [if_neg hzero]
      exact append_ne_dashes (by decide) _
  simp [options, dashes_not_mem_depthArgs, hshort]

/-- An operand is read as an option for what it is, or because of what the request puts before it. -/
theorem readsAsOption_iff {before : List String} {text : String} (hline : line ∈ r.lines kept) :
    ReadsAsOption (line.own ++ before) text ↔ Dashed text ∧ "--" ∉ before := by
  have hown : "--" ∉ line.own := fun hmem =>
    r.dashes_not_mem_options (mem_options_of_own hline hmem (by decide))
  unfold ReadsAsOption
  rw [List.mem_append, not_or]
  constructor
  · rintro ⟨hdash, -, hbefore⟩
    exact ⟨hdash, hbefore⟩
  · rintro ⟨hdash, hbefore⟩
    exact ⟨hdash, hown, hbefore⟩

end CloneRequest

/-! ## What git reads as options -/

open Clone

/-- **Which texts of a request git reads as options.** Every command of a run is a line of the program with
texts of the request at its end. Its own words that begin with a dash are options that the program gives; a
text of the request is read as an option just if it begins with a dash, unless an earlier text of the same
line is `--`. -/
theorem operand_reads_as_option_iff (policy : RetryPolicy) {r : CloneRequest} {m : Machine Script}
    {e : Exchange} (hvalid : r.validate = .ok ())
    (he : e ∈ transcript m ((run (Git.client Script.runner policy) r).exec m).2) :
    ∃ kept, ∃ line ∈ r.lines kept, e.args = line.own ++ line.texts ∧
      (∀ word ∈ line.own, Dashed word → word ∈ r.options) ∧
      ∀ before text after, line.texts = before ++ text :: after →
        (ReadsAsOption (line.own ++ before) text ↔ Dashed text ∧ "--" ∉ before) := by
  rcases performed_run policy m hvalid with hnone | ⟨ctx, final, hperformed⟩
  · rw [hnone] at he
    exact absurd he List.not_mem_nil
  · obtain ⟨item, hitem, kept, hargs⟩ := hperformed.exists_item he
    obtain ⟨line, hline, hsplit⟩ := CloneRequest.exists_line hitem hargs
    refine ⟨kept, line, hline, hsplit, ?_, ?_⟩
    · intro word hword hdash
      exact CloneRequest.mem_options_of_own hline hword hdash
    · intro before text after _
      exact CloneRequest.readsAsOption_iff hline

/-- A request with an option for a refspec. -/
def optionForRefspec : CloneRequest :=
  { CloneRequest.new "https://e.org/x" with refspec := some "--upload-pack=touch x" }

/-- Its fetch, with a script that lets everything succeed. -/
theorem fetch_of_optionForRefspec :
    ∃ e ∈ transcript (Machine.bare ⟨[], [], []⟩ : Machine Script)
        ((run (Git.client Script.runner .default) optionForRefspec).exec (Machine.bare ⟨[], [], []⟩)).2,
      e.args = ["fetch", "origin", "--update-head-ok", "--force", "--upload-pack=touch x"] := by
  decide +kernel

/-- What the program says of this fetch. -/
theorem operand_reads_as_option_of_upload_pack :
    ∃ e ∈ transcript (Machine.bare ⟨[], [], []⟩ : Machine Script)
        ((run (Git.client Script.runner .default) optionForRefspec).exec (Machine.bare ⟨[], [], []⟩)).2,
      e.args = ["fetch", "origin", "--update-head-ok", "--force", "--upload-pack=touch x"] ∧
      ∃ kept, ∃ line ∈ optionForRefspec.lines kept, e.args = line.own ++ line.texts ∧
        ∀ before text after, line.texts = before ++ text :: after →
          (ReadsAsOption (line.own ++ before) text ↔ Dashed text ∧ "--" ∉ before) := by
  obtain ⟨e, he, hargs⟩ := fetch_of_optionForRefspec
  obtain ⟨kept, line, hline, hsplit, -, hreads⟩ := operand_reads_as_option_iff .default rfl he
  exact ⟨e, he, hargs, kept, line, hline, hsplit, hreads⟩

/-- The request is valid, and the refspec at the end of its fetch is read as an option. -/
theorem refspec_reads_as_option :
    optionForRefspec.validate = .ok () ∧
      ∃ e ∈ transcript (Machine.bare ⟨[], [], []⟩ : Machine Script)
          ((run (Git.client Script.runner .default) optionForRefspec).exec (Machine.bare ⟨[], [], []⟩)).2,
        ∃ before text, optionForRefspec.refspec = some text ∧ e.args = before ++ [text] ∧
          ReadsAsOption before text := by
  obtain ⟨e, he, hargs⟩ := fetch_of_optionForRefspec
  exact ⟨rfl, e, he, ["fetch", "origin", "--update-head-ok", "--force"], "--upload-pack=touch x", rfl, hargs,
    by decide, by decide⟩

end Checkout
