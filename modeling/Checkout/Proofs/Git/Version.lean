import Checkout.Git.Cli
import Checkout.Proofs.Execution
import Checkout.Proofs.Number.Numeral
import Checkout.Proofs.Text.CodeTable
import Checkout.Proofs.Text.Pieces

/-!
# Which git is recent enough

A `Match` is a place in a text where the words stand with three runs of digits behind them. The search takes the
leftmost one, with its runs as long as they can be: a point ends the first two, and what is no digit the third.
The runs make a version if they are numbers, which digits of other scripts are not.

Results:
* `findRuns?_eq_some_iff`: the search finds the leftmost match;
* `ofOutput_eq_ok_iff`, `ofOutput_text`: when an output names a version, and that a written version is read back;
* `exec_checkVersion_iff`: when git is accepted.
-/

namespace Checkout

open Text Number

namespace Version

variable {text rest before after a b c ds : List Char} {x : Char}

/-! ## Matches -/

/-- Digits of any script, one at least. -/
def IsRun (ds : List Char) : Prop := ds ≠ [] ∧ ∀ d ∈ ds, digitSet.has d = true

/-- A text goes on with what is no digit, if it goes on. -/
def EndsRun (rest : List Char) : Prop := ∀ d ∈ rest.head?, digitSet.has d = false

/-- Behind a part of a text stand the words and three runs of digits with points between them. -/
structure Match (text before a b c after : List Char) : Prop where
  eq : text = before ++ "git version ".toList ++ (a ++ '.' :: (b ++ '.' :: (c ++ after)))
  major : IsRun a
  minor : IsRun b
  patch : IsRun c

/-- No match is further left, and the last run is as long as it can be. -/
structure LeftmostMatch (text before a b c after : List Char) : Prop extends
    Match text before a b c after where
  maximal : EndsRun after
  leftmost : ∀ before' a' b' c' after', Match text before' a' b' c' after' → before.length ≤ before'.length

theorem endsRun_point (rest : List Char) : EndsRun ('.' :: rest) := by
  intro d hd
  cases hd
  exact has_digitSet_of_lt (by decide)

theorem endsRun_dropWhile (cs : List Char) : EndsRun (cs.dropWhile digitSet.has) :=
  head_dropWhile digitSet.has cs

/-- **A run of digits is read** up to what is no digit. -/
theorem digitRun?_eq_some_iff :
    digitRun? text = some (ds, rest) ↔ text = ds ++ rest ∧ IsRun ds ∧ EndsRun rest := by
  unfold digitRun?
  constructor
  · intro h
    dsimp only at h
    split at h
    · cases h
    · rename_i hne
      cases h
      refine ⟨List.takeWhile_append_dropWhile.symm, ⟨by simpa using hne, fun d hd => ?_⟩,
        endsRun_dropWhile text⟩
      exact List.mem_takeWhile_imp hd
  · rintro ⟨rfl, ⟨hne, hdigits⟩, hends⟩
    rw [takeWhile_append_eq hdigits hends, dropWhile_append_eq hdigits hends]
    simp [hne]

theorem afterPoint?_eq_some_iff : afterPoint? text = some rest ↔ text = '.' :: rest := by
  unfold afterPoint?
  split
  · simp
  · rename_i hpoint
    simp only [reduceCtorEq, false_iff]
    exact hpoint rest

/-- Three runs are read just if they stand there. -/
theorem digitRuns?_eq_some_iff :
    digitRuns? text = some (a, b, c) ↔ ∃ after, text = a ++ '.' :: (b ++ '.' :: (c ++ after)) ∧
      IsRun a ∧ IsRun b ∧ IsRun c ∧ EndsRun after := by
  unfold digitRuns?
  simp only [Option.bind_eq_bind, Option.bind_eq_some_iff, Prod.exists, digitRun?_eq_some_iff,
    afterPoint?_eq_some_iff, Option.some.injEq, Prod.mk.injEq]
  constructor
  · rintro ⟨a, _, ⟨rfl, ha, -⟩, _, rfl, b, _, ⟨rfl, hb, -⟩, _, rfl, c, after, ⟨rfl, hc, hafter⟩, rfl, rfl, rfl⟩
    exact ⟨after, rfl, ha, hb, hc, hafter⟩
  · rintro ⟨after, rfl, ha, hb, hc, hafter⟩
    exact ⟨a, _, ⟨rfl, ha, endsRun_point _⟩, _, rfl, b, _, ⟨rfl, hb, endsRun_point _⟩, _, rfl, c, after,
      ⟨rfl, hc, hafter⟩, rfl, rfl, rfl⟩

/-! ## The search -/

/-- The last run of a match can be taken as long as it can be. -/
theorem Match.exists_maximal (h : Match text before a b c after) :
    ∃ c' after', Match text before a b c' after' ∧ EndsRun after' := by
  refine ⟨c ++ after.takeWhile digitSet.has, after.dropWhile digitSet.has,
    ⟨?_, h.major, h.minor, by simp [h.patch.1], fun d hd => ?_⟩, endsRun_dropWhile after⟩
  · rw [List.append_assoc c, List.takeWhile_append_dropWhile]
    exact h.eq
  · rcases List.mem_append.mp hd with hd | hd
    · exact h.patch.2 d hd
    · exact List.mem_takeWhile_imp hd

/-- The runs that the search reads at the place where it is. -/
def runsHere? (text : List Char) : Option (List Char × List Char × List Char) :=
  if prelude.isPrefixOf text then digitRuns? (text.drop prelude.length) else none

theorem runsHere?_eq_some_iff :
    runsHere? text = some (a, b, c) ↔ ∃ after, Match text [] a b c after ∧ EndsRun after := by
  unfold runsHere?
  constructor
  · intro h
    split at h
    · rename_i hprefix
      obtain ⟨rest, rfl⟩ := List.isPrefixOf_iff_prefix.mp hprefix
      rw [List.drop_left] at h
      obtain ⟨after, rfl, ha, hb, hc, hafter⟩ := digitRuns?_eq_some_iff.mp h
      exact ⟨after, ⟨rfl, ha, hb, hc⟩, hafter⟩
    · cases h
  · rintro ⟨after, ⟨rfl, ha, hb, hc⟩, hafter⟩
    have hprefix : prelude.isPrefixOf
        ([] ++ "git version ".toList ++ (a ++ '.' :: (b ++ '.' :: (c ++ after)))) = true :=
      List.isPrefixOf_iff_prefix.mpr (List.prefix_append _ _)
    rw [if_pos hprefix]
    exact digitRuns?_eq_some_iff.mpr ⟨after, List.drop_left, ha, hb, hc, hafter⟩

theorem runsHere?_eq_none_iff :
    runsHere? text = none ↔ ∀ a b c after, ¬ Match text [] a b c after := by
  constructor
  · intro h a b c after hmatch
    obtain ⟨c', after', hmatch', hends⟩ := hmatch.exists_maximal
    rw [runsHere?_eq_some_iff.mpr ⟨after', hmatch', hends⟩] at h
    cases h
  · intro h
    cases hruns : runsHere? text with
    | none => rfl
    | some runs =>
      obtain ⟨a, b, c⟩ := runs
      obtain ⟨after, hmatch, -⟩ := runsHere?_eq_some_iff.mp hruns
      exact absurd hmatch (h a b c after)

theorem findRuns?_cons (x : Char) (rest : List Char) :
    findRuns? (x :: rest) = (runsHere? (x :: rest)).or (findRuns? rest) := rfl

theorem not_match_nil : ¬ Match [] before a b c after := by
  intro h
  have hlength := congrArg List.length h.eq
  simp at hlength

theorem match_cons_iff : Match (x :: rest) (x :: before) a b c after ↔ Match rest before a b c after :=
  ⟨fun h => ⟨List.tail_eq_of_cons_eq h.eq, h.major, h.minor, h.patch⟩,
    fun h => ⟨congrArg (x :: ·) h.eq, h.major, h.minor, h.patch⟩⟩

/-- A match further on begins with the same character. -/
theorem Match.exists_cons (h : Match (x :: rest) before a b c after) (hne : before ≠ []) :
    ∃ before', before = x :: before' ∧ Match rest before' a b c after := by
  cases before with
  | nil => exact absurd rfl hne
  | cons y before' =>
    obtain rfl : x = y := List.head_eq_of_cons_eq h.eq
    exact ⟨before', rfl, match_cons_iff.mp h⟩

/-- The leftmost match is the one here, if there is one. -/
theorem leftmost_here (h : Match (x :: rest) [] a b c after) (hends : EndsRun after) :
    LeftmostMatch (x :: rest) [] a b c after :=
  ⟨h, hends, fun _ _ _ _ _ _ => Nat.zero_le _⟩

/-- Where there is no match here, the leftmost one is that of the rest. -/
theorem leftmost_cons_iff (hnone : ∀ a b c after, ¬ Match (x :: rest) [] a b c after) :
    LeftmostMatch (x :: rest) before a b c after ↔
      ∃ before', before = x :: before' ∧ LeftmostMatch rest before' a b c after := by
  have hne : ∀ {before a b c after}, Match (x :: rest) before a b c after → before ≠ [] := by
    rintro before a b c after h rfl
    exact hnone a b c after h
  constructor
  · intro h
    obtain ⟨before', rfl, hrest⟩ := h.toMatch.exists_cons (hne h.toMatch)
    refine ⟨before', rfl, hrest, h.maximal, fun before'' a' b' c' after' hother => ?_⟩
    exact Nat.le_of_succ_le_succ (h.leftmost _ a' b' c' after' (match_cons_iff.mpr hother))
  · rintro ⟨before', rfl, h⟩
    refine ⟨match_cons_iff.mpr h.toMatch, h.maximal, fun before'' a' b' c' after' hother => ?_⟩
    obtain ⟨front, rfl, hrest⟩ := hother.exists_cons (hne hother)
    exact Nat.succ_le_succ (h.leftmost _ a' b' c' after' hrest)

/-- **The search finds the leftmost match.** -/
theorem findRuns?_eq_some_iff :
    findRuns? text = some (a, b, c) ↔ ∃ before after, LeftmostMatch text before a b c after := by
  induction text with
  | nil =>
    simp only [findRuns?, reduceCtorEq, false_iff, not_exists]
    exact fun before after h => not_match_nil h.toMatch
  | cons x rest ih =>
    rw [findRuns?_cons]
    cases hruns : runsHere? (x :: rest) with
    | none =>
      rw [Option.none_or, ih]
      have hnone := runsHere?_eq_none_iff.mp hruns
      constructor
      · rintro ⟨before, after, h⟩
        exact ⟨x :: before, after, (leftmost_cons_iff hnone).mpr ⟨before, rfl, h⟩⟩
      · rintro ⟨before, after, h⟩
        obtain ⟨before', -, h⟩ := (leftmost_cons_iff hnone).mp h
        exact ⟨before', after, h⟩
    | some runs =>
      rw [Option.some_or, ← hruns, runsHere?_eq_some_iff]
      obtain ⟨a', b', c'⟩ := runs
      obtain ⟨after', hmatch', -⟩ := runsHere?_eq_some_iff.mp hruns
      constructor
      · rintro ⟨after, hmatch, hends⟩
        exact ⟨[], after, leftmost_here hmatch hends⟩
      · rintro ⟨before, after, h⟩
        obtain rfl := List.length_eq_zero_iff.mp (Nat.le_zero.mp (h.leftmost _ _ _ _ _ hmatch'))
        exact ⟨after, h.toMatch, h.maximal⟩

/-! ## Versions -/

/-- ASCII digits name a number, which fits 64 bits. -/
structure Means (ds : List Char) (n : Nat) : Prop where
  ascii : ∀ d ∈ ds, d.isDigit = true
  value : Number.ofDigits ds = n
  fits : n < 2 ^ 64

theorem number?_eq_some_iff {n : Nat} : number? ds = some n ↔ Means ds n := by
  unfold number?
  constructor
  · intro h
    split at h
    · rename_i hascii
      dsimp only at h
      split at h
      · rename_i hle
        cases h
        exact ⟨List.all_eq_true.mp hascii, rfl, Nat.lt_succ_of_le hle⟩
      · cases h
    · cases h
  · rintro ⟨hascii, rfl, hfits⟩
    rw [if_pos (List.all_eq_true.mpr hascii)]
    exact if_pos (Nat.le_of_lt_succ hfits)

theorem ofOutput?_eq_some_iff {output : String} {v : Version} :
    ofOutput? output = some v ↔ ∃ before a b c after, LeftmostMatch output.toList before a b c after ∧
      Means a v.major ∧ Means b v.minor ∧ Means c v.patch := by
  unfold ofOutput?
  simp only [Option.bind_eq_bind, Option.bind_eq_some_iff, Prod.exists, findRuns?_eq_some_iff,
    number?_eq_some_iff, Option.some.injEq]
  constructor
  · rintro ⟨a, b, c, ⟨before, after, h⟩, major, hmajor, minor, hminor, patch, hpatch, rfl⟩
    exact ⟨before, a, b, c, after, h, hmajor, hminor, hpatch⟩
  · rintro ⟨before, a, b, c, after, h, hmajor, hminor, hpatch⟩
    exact ⟨a, b, c, ⟨before, after, h⟩, _, hmajor, _, hminor, _, hpatch, rfl⟩

theorem ofOutput_eq_ok_iff_some {output : String} {v : Version} :
    ofOutput output = .ok v ↔ ofOutput? output = some v := by
  unfold ofOutput
  cases ofOutput? output <;> simp

/-- An output names a version, or it is refused as it is, without the blanks at its ends. -/
theorem ofOutput_cases (output : String) :
    (∃ v, ofOutput output = .ok v) ∨
      ofOutput output = .error (.unsupportedGitVersion (trim output) "2.25.0") := by
  unfold ofOutput
  cases ofOutput? output with
  | some v => exact Or.inl ⟨v, rfl⟩
  | none =>
    have holdest : oldest.text = "2.25.0" := by decide +kernel
    rw [holdest]
    exact Or.inr rfl

theorem isRun_decimal (n : Nat) : IsRun (decimal n) :=
  ⟨decimal_ne_nil n, fun _ hd => has_digitSet_of_isDigit (isDigit_of_mem_decimal hd)⟩

theorem means_decimal {n : Nat} (h : n < 2 ^ 64) : Means (decimal n) n :=
  ⟨fun _ hd => isDigit_of_mem_decimal hd, ofDigits_decimal n, h⟩

/-- The parts of a version, first one first. -/
def parts (v : Version) : List Nat := [v.major, v.minor, v.patch]

/-- **A version that is written is read back**, whatever follows it but a digit. -/
theorem ofOutput_text {v : Version} {suffix : String} (hfits : ∀ n ∈ v.parts, n < 2 ^ 64)
    (hsuffix : EndsRun suffix.toList) : ofOutput ("git version " ++ v.text ++ suffix) = .ok v := by
  rw [ofOutput_eq_ok_iff_some, ofOutput?_eq_some_iff]
  refine ⟨[], decimal v.major, decimal v.minor, decimal v.patch, suffix.toList,
    ⟨⟨?_, isRun_decimal _, isRun_decimal _, isRun_decimal _⟩, hsuffix, fun _ _ _ _ _ _ => Nat.zero_le _⟩,
    means_decimal (hfits _ (by simp [parts])), means_decimal (hfits _ (by simp [parts])),
    means_decimal (hfits _ (by simp [parts]))⟩
  unfold Version.text
  simp only [String.toList_append, String.toList_ofList, List.nil_append, List.append_assoc, List.cons_append]

/-- One version does not come before another one: the first parts that differ decide. -/
def NotBefore (v w : Version) : Prop :=
  w.major < v.major ∨ w.major = v.major ∧ (w.minor < v.minor ∨ w.minor = v.minor ∧ w.patch ≤ v.patch)

theorem isBefore_eq_false_iff (v w : Version) : v.isBefore w = false ↔ v.NotBefore w := by
  unfold isBefore NotBefore
  rw [← Bool.not_eq_true]
  simp only [Bool.or_eq_true, Bool.and_eq_true, decide_eq_true_eq, beq_iff_eq]
  omega

end Version

/-! ## Acceptance -/

namespace Git

variable {ρ : Type} {m m' : Machine ρ}

/-- What is made of the output of `git --version`. -/
def judgeVersion (out : CommandOutput) : Run ρ Unit := do
  if !out.isSuccess then
    throw (.spawn program s!"failed to get git version: {trim out.stderr}")
  let version ← Run.ofExcept (Version.ofOutput out.stdout)
  if version.isBefore .oldest then
    throw (.unsupportedGitVersion version.text Version.oldest.text)
  write .debug .git s!"Using git {version.text}"

theorem exec_judgeVersion_iff (out : CommandOutput) :
    ((judgeVersion out).exec m).1 = .ok () ↔ out.exitCode = 0 ∧
      ∃ v, Version.ofOutput out.stdout = .ok v ∧ v.NotBefore ⟨2, 25, 0⟩ := by
  have hsuccess : out.isSuccess = true ↔ out.exitCode = 0 := beq_iff_eq
  unfold judgeVersion
  by_cases hexit : out.exitCode = 0
  · rw [hsuccess.mpr hexit, Bool.not_true, if_neg Bool.false_ne_true]
    simp only [hexit, true_and]
    cases hv : Version.ofOutput out.stdout with
    | error e => simp [Run.exec_bind]
    | ok v =>
      rw [Run.exec_bind_ok (Run.exec_ofExcept _ _)]
      have hrecent : v.isBefore .oldest = false ↔ v.NotBefore ⟨2, 25, 0⟩ := Version.isBefore_eq_false_iff v _
      cases hbefore : v.isBefore .oldest <;> simp [hbefore, ← hrecent]
  · have hfailed : out.isSuccess = false := Bool.eq_false_iff.mpr (mt hsuccess.mp hexit)
    rw [hfailed, Bool.not_false, if_pos rfl]
    simp [hexit]

/-- **Git is accepted** just if it ends without a failure and names a version that is recent enough. -/
theorem exec_checkVersion_iff (run : Runner ρ) (m : Machine ρ) :
    ((checkVersion run).exec m).1 = .ok () ↔ ∃ out m', (run ⟨"git", ["--version"], none, []⟩).exec m = (.ok out, m') ∧
      out.exitCode = 0 ∧ ∃ v, Version.ofOutput out.stdout = .ok v ∧ v.NotBefore ⟨2, 25, 0⟩ := by
  have hcheck : checkVersion run = run ⟨"git", ["--version"], none, []⟩ >>= judgeVersion := rfl
  rw [hcheck]
  cases hrun : (run ⟨"git", ["--version"], none, []⟩).exec m with
  | mk o m' =>
    cases o with
    | error e =>
      rw [Run.exec_bind_error hrun]
      simp
    | ok out =>
      rw [Run.exec_bind_ok hrun, exec_judgeVersion_iff]
      simp

end Git

/-- **When a version is accepted.** An output names a version just if the leftmost place where the words stand with
three runs of digits, as long as they can be, has runs in ASCII that fit 64 bits; else it is refused as it is. So a
version that is written is read back, whatever follows it but a digit. Git is accepted just if it ends without a
failure and names a version that does not come before 2.25.0. -/
theorem git_version_gate :
    (∀ (output : String) (v : Version), Version.ofOutput output = .ok v ↔
      ∃ before a b c after, Version.LeftmostMatch output.toList before a b c after ∧
        Version.Means a v.major ∧ Version.Means b v.minor ∧ Version.Means c v.patch) ∧
    (∀ output, (∃ v, Version.ofOutput output = .ok v) ∨
      Version.ofOutput output = .error (.unsupportedGitVersion (trim output) "2.25.0")) ∧
    (∀ (v : Version) (suffix : String), (∀ n ∈ v.parts, n < 2 ^ 64) → Version.EndsRun suffix.toList →
      Version.ofOutput ("git version " ++ v.text ++ suffix) = .ok v) ∧
    ∀ {ρ : Type} (run : Runner ρ) (m : Machine ρ), ((Git.checkVersion run).exec m).1 = .ok () ↔
      ∃ out m', (run ⟨"git", ["--version"], none, []⟩).exec m = (.ok out, m') ∧ out.exitCode = 0 ∧
        ∃ v, Version.ofOutput out.stdout = .ok v ∧ v.NotBefore ⟨2, 25, 0⟩ :=
  ⟨fun _ _ => Version.ofOutput_eq_ok_iff_some.trans Version.ofOutput?_eq_some_iff, Version.ofOutput_cases,
    fun _ _ => Version.ofOutput_text, Git.exec_checkVersion_iff⟩

/-- The greatest major version that fits, with the name of a vendor behind it. -/
theorem git_version_gate_of_vendor :
    (∀ n ∈ (⟨18446744073709551615, 39, 3⟩ : Version).parts, n < 2 ^ 64) ∧
      Version.EndsRun " (Apple Git-145)".toList ∧
      Version.ofOutput ("git version " ++ (⟨18446744073709551615, 39, 3⟩ : Version).text ++ " (Apple Git-145)") =
        .ok ⟨18446744073709551615, 39, 3⟩ := by
  have hfits : ∀ n ∈ (⟨18446744073709551615, 39, 3⟩ : Version).parts, n < 2 ^ 64 := by decide
  have hsuffix : Version.EndsRun " (Apple Git-145)".toList := by
    intro d hd
    cases hd
    exact has_digitSet_of_lt (by decide)
  exact ⟨hfits, hsuffix, git_version_gate.2.2.1 _ _ hfits hsuffix⟩

end Checkout
