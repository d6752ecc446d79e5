import Checkout.Proofs.Text.CodeTable
import Checkout.Text.Infix
import Checkout.Text.LowerCase
import Mathlib.Data.List.Infix
import Mathlib.Data.List.TakeWhile

/-!
# Lower case inside a longer text

The lower case of a part of a text is a part of the text's lower case, as far as each character has an image of
its own. Only the image of a capital sigma depends on what stands around it: it is final if a cased letter comes
before it and none after it, past characters that casing looks through. So what counts is whether a part decides
this for each of its capital sigmas by itself. If it does not, one cased letter more in front of the part or
behind it makes some of them final, or some not final, and their number tells that the lower case is gone.

Results:
* `lowerBetween_congr`: the lower case of a part depends on the images of its capital sigmas only;
* `lowerSigma_of_decided`: what the characters around a sigma decide stays so in a longer text;
* `count_lowerBetween_lt`: one sigma that changes makes a difference to the number of final ones;
* `containsText_toLower_iff`: which texts are found in lower case wherever they stand.
-/

namespace Checkout.Text

/-! ## Finding a text -/

theorem isInfix_iff {needle cs : List Char} : isInfix needle cs = true ↔ needle <:+: cs := by
  induction cs with
  | nil => simp [isInfix]
  | cons c rest ih =>
    rw [isInfix, Bool.or_eq_true, ih, List.isPrefixOf_iff_prefix, List.infix_cons_iff]

/-! ## The lower case of a part -/

/-- The lower case of `cs` between the characters `before`, last one first, and the characters `after`. -/
def lowerBetween (before after : List Char) : List Char → List Char
  | [] => []
  | c :: rest =>
    if c = 'Σ' then lowerSigma before (rest ++ after) :: lowerBetween (c :: before) after rest
    else lowerChar c ++ lowerBetween (c :: before) after rest

theorem toNat_eq_sigma_iff {c : Char} : c.toNat = 0x3A3 ↔ c = 'Σ' :=
  ⟨fun h => Char.toNat_inj.mp h, fun h => h ▸ rfl⟩

theorem lowerFrom_eq (before cs : List Char) : lowerFrom before cs = lowerBetween before [] cs := by
  induction cs generalizing before with
  | nil => rfl
  | cons c rest ih =>
    unfold lowerFrom lowerBetween
    simp only [toNat_eq_sigma_iff, ih, List.append_nil]

theorem lowerList_eq (cs : List Char) : lowerList cs = lowerBetween [] [] cs := lowerFrom_eq [] cs

theorem lowerBetween_append (before after xs ys : List Char) :
    lowerBetween before after (xs ++ ys) =
      lowerBetween before (ys ++ after) xs ++ lowerBetween (xs.reverse ++ before) after ys := by
  induction xs generalizing before with
  | nil => rfl
  | cons c rest ih =>
    rw [List.cons_append, lowerBetween, lowerBetween, ih, List.append_assoc, List.reverse_cons,
      List.append_assoc, List.singleton_append]
    split
    · rfl
    · rw [List.append_assoc]

theorem lowerList_append (xs ys : List Char) :
    lowerList (xs ++ ys) = lowerBetween [] ys xs ++ lowerBetween xs.reverse [] ys := by
  rw [lowerList_eq, lowerBetween_append, List.append_nil, List.append_nil]

variable {before before' after after' cs : List Char}

/-- **The lower case of a part** depends on what stands around it only through its capital sigmas. -/
theorem lowerBetween_congr
    (h : ∀ head tail, cs = head ++ 'Σ' :: tail →
      lowerSigma (head.reverse ++ before) (tail ++ after) =
        lowerSigma (head.reverse ++ before') (tail ++ after')) :
    lowerBetween before after cs = lowerBetween before' after' cs := by
  induction cs generalizing before before' with
  | nil => rfl
  | cons c rest ih =>
    have hrest : lowerBetween (c :: before) after rest = lowerBetween (c :: before') after' rest := by
      refine ih fun head tail hsplit => ?_
      have hlater := h (c :: head) tail (by rw [hsplit, List.cons_append])
      simpa using hlater
    unfold lowerBetween
    rw [hrest]
    split
    · rename_i hsigma
      rw [hsigma] at h
      rw [show lowerSigma before (rest ++ after) = lowerSigma before' (rest ++ after') from h [] rest rfl]
    · rfl

/-! ## What decides about a sigma -/

theorem startsCased_append_of_all (h : ∀ c ∈ before, caseIgnorableSet.has c = true) :
    startsCased (before ++ after) = startsCased after := by
  unfold startsCased
  rw [List.dropWhile_append_of_pos h]

theorem startsCased_append_of_exists (h : ∃ c ∈ before, caseIgnorableSet.has c = false) :
    startsCased (before ++ after) = startsCased before := by
  unfold startsCased
  have hstays : before.dropWhile caseIgnorableSet.has ≠ [] := by
    rw [Ne, List.dropWhile_eq_nil_iff]
    intro hall
    obtain ⟨c, hc, hnot⟩ := h
    rw [hall c hc] at hnot
    cases hnot
  obtain ⟨d, rest, hcons⟩ := List.exists_cons_of_ne_nil hstays
  rw [List.dropWhile_append, hcons]
  rfl

theorem startsCased_eq_false_of_all (h : ∀ c ∈ before, caseIgnorableSet.has c = true) :
    startsCased before = false := by
  rw [← List.append_nil before, startsCased_append_of_all h]
  rfl

/-- What a text has in front of a capital sigma and behind it decides whether the sigma is final, whatever stands
around the text. If a cased letter comes before it, something behind it is not looked through, so it is known
what comes next. If all that is in front is looked through, a cased letter comes next, so the sigma is not final
whatever came before. -/
structure Decided (before after : List Char) : Prop where
  behind : startsCased before.reverse = true → ∃ c ∈ after, caseIgnorableSet.has c = false
  front : (∀ c ∈ before, caseIgnorableSet.has c = true) → startsCased after = true

/-- **What is decided about a sigma** stays so in a longer text. -/
theorem lowerSigma_of_decided (h : Decided before after) (front back : List Char) :
    lowerSigma (before.reverse ++ front) (after ++ back) = lowerSigma before.reverse after := by
  by_cases hall : ∀ c ∈ before, caseIgnorableSet.has c = true
  · have hcased := h.front hall
    have hexists : ∃ c ∈ after, caseIgnorableSet.has c = false := by
      by_contra hnone
      push Not at hnone
      rw [startsCased_eq_false_of_all fun c hc => by simpa using hnone c hc] at hcased
      cases hcased
    simp [lowerSigma, startsCased_append_of_exists hexists, hcased]
  · push Not at hall
    have hexists : ∃ c ∈ before.reverse, caseIgnorableSet.has c = false := by
      simpa using hall
    unfold lowerSigma
    rw [startsCased_append_of_exists hexists]
    cases hcased : startsCased before.reverse with
    | false => rfl
    | true => rw [startsCased_append_of_exists (h.behind hcased)]

/-- A text that decides about all of its capital sigmas. -/
def SigmasDecided (cs : List Char) : Prop :=
  ∀ before after, cs = before ++ 'Σ' :: after → Decided before after

theorem sigmasDecided_of_not_mem (h : 'Σ' ∉ cs) : SigmasDecided cs := fun before _ hsplit =>
  absurd (hsplit ▸ List.mem_append_right before List.mem_cons_self) h

/-- **The lower case is found** wherever such a text stands. -/
theorem lowerList_infix (h : SigmasDecided cs) (front back : List Char) :
    lowerList cs <:+: lowerList (front ++ cs ++ back) := by
  have hsame : lowerBetween (front.reverse ++ []) back cs = lowerList cs := by
    rw [lowerList_eq]
    refine lowerBetween_congr fun head tail hsplit => ?_
    rw [List.append_nil, List.append_nil, List.append_nil]
    exact lowerSigma_of_decided (h head tail hsplit) _ _
  rw [lowerList_append, lowerBetween_append, hsame]
  exact ⟨_, _, rfl⟩

/-! ## Sigmas that change -/

/-- The number of images of one kind grows if each sigma that has such an image keeps it. -/
theorem count_lowerBetween_le {x : Char}
    (h : ∀ head tail, lowerSigma (head ++ before) (tail ++ after) = x →
      lowerSigma (head ++ before') (tail ++ after') = x) :
    (lowerBetween before after cs).count x ≤ (lowerBetween before' after' cs).count x := by
  induction cs generalizing before before' with
  | nil => exact Nat.le_refl _
  | cons c rest ih =>
    have hrest : (lowerBetween (c :: before) after rest).count x ≤
        (lowerBetween (c :: before') after' rest).count x := by
      refine ih fun head tail hx => ?_
      have hlater := h (head ++ [c]) tail (by simpa using hx)
      simpa using hlater
    unfold lowerBetween
    split
    · rw [List.count_cons, List.count_cons]
      have hhere := h [] rest
      simp only [List.nil_append] at hhere
      by_cases hx : lowerSigma before (rest ++ after) = x
      · simpa [hx, hhere hx] using hrest
      · simp only [beq_iff_eq, hx, if_false]
        omega
    · rw [List.count_append, List.count_append]
      exact Nat.add_le_add_left hrest _

/-- **One sigma that changes** makes a difference to that number. -/
theorem count_lowerBetween_lt {x : Char} {head tail : List Char}
    (h : ∀ head tail, lowerSigma (head ++ before) (tail ++ after) = x →
      lowerSigma (head ++ before') (tail ++ after') = x)
    (hnot : lowerSigma (head.reverse ++ before) (tail ++ after) ≠ x)
    (hx : lowerSigma (head.reverse ++ before') (tail ++ after') = x) :
    (lowerBetween before after (head ++ 'Σ' :: tail)).count x <
      (lowerBetween before' after' (head ++ 'Σ' :: tail)).count x := by
  have hhead : (lowerBetween before ('Σ' :: tail ++ after) head).count x ≤
      (lowerBetween before' ('Σ' :: tail ++ after') head).count x :=
    count_lowerBetween_le fun first last hfirst => by
      simpa using h first (last ++ 'Σ' :: tail) (by simpa using hfirst)
  have htail : (lowerBetween ('Σ' :: (head.reverse ++ before)) after tail).count x ≤
      (lowerBetween ('Σ' :: (head.reverse ++ before')) after' tail).count x :=
    count_lowerBetween_le fun first last hfirst => by
      simpa using h (first ++ 'Σ' :: head.reverse) last (by simpa using hfirst)
  rw [lowerBetween_append, lowerBetween_append, List.count_append, List.count_append, lowerBetween, lowerBetween,
    if_pos rfl, if_pos rfl, List.count_cons_of_ne hnot, hx, List.count_cons_self]
  omega

/-! ## A cased letter more -/

set_option maxRecDepth 10000 in
/-- What the tables say of a Latin letter and of a Greek one. -/
theorem has_letter {c : Char} (h : c ∈ ['a', 'Α']) :
    casedSet.has c = true ∧ caseIgnorableSet.has c = false := by
  obtain ⟨cased, hcased, hhas⟩ : ∃ bounds, casedSet = CodeSet.ofBounds bounds ∧
      ['a', 'Α'].all (CodeSet.ofBounds bounds).has = true :=
    ⟨_, CodeSet.ofRuns_eq_ofBounds _, by decide +kernel⟩
  obtain ⟨ignored, hignored, hnot⟩ : ∃ bounds, caseIgnorableSet = CodeSet.ofBounds bounds ∧
      ['a', 'Α'].all (fun c => !(CodeSet.ofBounds bounds).has c) = true :=
    ⟨_, CodeSet.ofRuns_eq_ofBounds _, by decide +kernel⟩
  rw [hcased, hignored]
  exact ⟨List.all_eq_true.mp hhas c h, by simpa using List.all_eq_true.mp hnot c h⟩

theorem startsCased_letter {c : Char} (h : c ∈ ['a', 'Α']) (rest : List Char) :
    startsCased (c :: rest) = true := by
  obtain ⟨hcased, hnot⟩ := has_letter h
  unfold startsCased
  rw [List.dropWhile_cons_of_neg (by simp [hnot])]
  exact hcased

theorem startsCased_a (rest : List Char) : startsCased ('a' :: rest) = true :=
  startsCased_letter (by decide) rest

theorem startsCased_append_a (cs : List Char) (h : startsCased cs = true) : startsCased (cs ++ ['a']) = true := by
  by_cases hall : ∀ c ∈ cs, caseIgnorableSet.has c = true
  · rw [startsCased_append_of_all hall, startsCased_a]
  · push Not at hall
    rw [startsCased_append_of_exists (by simpa using hall), h]

theorem lowerList_append_a (cs : List Char) : lowerList (cs ++ ['a']) = lowerBetween [] ['a'] cs ++ ['a'] :=
  lowerList_append cs ['a']

theorem lowerList_cons_a (cs : List Char) : lowerList ('a' :: cs) = 'a' :: lowerBetween ['a'] [] cs :=
  lowerList_append ['a'] cs

theorem lowerSigma_eq_final_iff : lowerSigma before after = 'ς' ↔
    startsCased before = true ∧ startsCased after = false := by
  unfold lowerSigma
  cases startsCased before <;> cases startsCased after <;> simp

theorem lowerSigma_eq_medial_iff : lowerSigma before after = 'σ' ↔
    (startsCased before = true → startsCased after = true) := by
  unfold lowerSigma
  cases startsCased before <;> cases startsCased after <;> simp

/-- **A letter behind the text** makes a sigma not final that is so at the end. -/
theorem not_infix_append_a {before after : List Char} (hcased : startsCased before.reverse = true)
    (hall : ∀ c ∈ after, caseIgnorableSet.has c = true) :
    ¬ lowerList (before ++ 'Σ' :: after) <:+: lowerList (before ++ 'Σ' :: after ++ ['a']) := by
  intro hinfix
  have hlt : (lowerBetween [] ['a'] (before ++ 'Σ' :: after)).count 'ς' <
      (lowerBetween [] [] (before ++ 'Σ' :: after)).count 'ς' := by
    refine count_lowerBetween_lt (fun head tail hfinal => ?_) (fun hfinal => ?_) ?_
    · rw [lowerSigma_eq_final_iff] at hfinal ⊢
      refine ⟨hfinal.1, ?_⟩
      rw [List.append_nil, ← Bool.not_eq_true]
      intro htail
      rw [startsCased_append_a tail htail] at hfinal
      exact absurd hfinal.2 (by decide)
    · rw [lowerSigma_eq_final_iff, startsCased_append_of_all hall, startsCased_a] at hfinal
      exact absurd hfinal.2 (by decide)
    · rw [lowerSigma_eq_final_iff, List.append_nil, List.append_nil]
      exact ⟨hcased, startsCased_eq_false_of_all hall⟩
  have hle := hinfix.sublist.count_le 'ς'
  have hletter : ['a'].count 'ς' = 0 := by decide
  rw [lowerList_append_a, lowerList_eq, List.count_append, hletter] at hle
  omega

/-- **A letter in front of the text** makes a sigma final that is not so at the beginning. -/
theorem not_infix_cons_a {before after : List Char} (hall : ∀ c ∈ before, caseIgnorableSet.has c = true)
    (hcased : startsCased after = false) :
    ¬ lowerList (before ++ 'Σ' :: after) <:+: lowerList ('a' :: (before ++ 'Σ' :: after)) := by
  intro hinfix
  have hlt : (lowerBetween ['a'] [] (before ++ 'Σ' :: after)).count 'σ' <
      (lowerBetween [] [] (before ++ 'Σ' :: after)).count 'σ' := by
    have hreverse : ∀ c ∈ before.reverse, caseIgnorableSet.has c = true := by simpa using hall
    refine count_lowerBetween_lt (fun head tail hmedial => ?_) (fun hmedial => ?_) ?_
    · rw [lowerSigma_eq_medial_iff] at hmedial ⊢
      rw [List.append_nil]
      exact fun hhead => hmedial (startsCased_append_a head hhead)
    · rw [lowerSigma_eq_medial_iff, startsCased_append_of_all hreverse, startsCased_a, List.append_nil,
        hcased] at hmedial
      exact absurd (hmedial rfl) (by decide)
    · rw [lowerSigma_eq_medial_iff, List.append_nil, startsCased_eq_false_of_all hreverse]
      exact fun h => absurd h (by decide)
  have hle := hinfix.sublist.count_le 'σ'
  rw [lowerList_cons_a, lowerList_eq, List.count_cons_of_ne (by decide)] at hle
  omega

/-- **Which lower cases are found** wherever the text stands: those of the texts that decide about their capital
sigmas. -/
theorem lowerList_infix_iff :
    (∀ front back, lowerList cs <:+: lowerList (front ++ cs ++ back)) ↔ SigmasDecided cs := by
  refine ⟨fun h before after hsplit => ⟨fun hcased => ?_, fun hall => ?_⟩, lowerList_infix⟩
  · by_contra hnone
    push Not at hnone
    have hfound := h [] ['a']
    rw [hsplit, List.nil_append] at hfound
    exact not_infix_append_a hcased (by simpa using hnone) hfound
  · by_contra hnot
    have hfound := h ['a'] []
    rw [hsplit, List.append_nil, List.singleton_append] at hfound
    exact not_infix_cons_a hall (by simpa using hnot) hfound

theorem containsText_toLower_iff {text : String} :
    (∀ output, containsText output text = true → containsText (toLower output) (toLower text) = true) ↔
      SigmasDecided text.toList := by
  rw [← lowerList_infix_iff]
  unfold containsText toLower
  simp only [isInfix_iff, String.toList_ofList]
  constructor
  · intro h front back
    have hfound := h (String.ofList (front ++ text.toList ++ back))
    rw [String.toList_ofList] at hfound
    exact hfound ⟨front, back, rfl⟩
  · rintro h output ⟨front, back, houtput⟩
    exact houtput ▸ h front back

end Checkout.Text
