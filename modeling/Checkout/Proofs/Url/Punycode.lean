import Checkout.Url.Punycode
import Mathlib.Data.List.Basic
import Mathlib.Data.List.Sort
import Mathlib.Tactic.Ring

/-!
# Punycode is read back

The writer goes through the code points of a label level by level and counts the places that it passes. The
reader puts each code point in its place and counts on from there. Both agree on the label as far as it is
done: all that is below the present code point, and what is equal to it in the part that was passed
(`Follows`). One number of the text is one code point, whatever its digits.

Not every label has an ASCII form, as a code point may be none of a character. But if what was written can be
read, the label is read.

Results:
* `foldlM_numberDigits`: the digits of a number are read as the number;
* `Follows.write`, `Follows.level`, `Follows.levels`: the reader follows the writer;
* `eq_of_decode?_encode`: the label that is read is the one that was written;
* `decode?_codes`: reading adds only code points that are not ASCII.
-/

namespace Checkout.Punycode

variable {label front back codes : List Nat} {basic n next c : Nat} {w : Writing} {r r' : Reading}
  {text : List Char}

/-! ## Digits -/

/-- A digit below 36 as a character. -/
def IsDigit (c : Char) : Prop := ∃ d < 36, c = digitChar d

theorem digitValue?_digitChar {d : Nat} (h : d < 36) : digitValue? (digitChar d) = some d :=
  (by decide : ∀ d < 36, digitValue? (digitChar d) = some d) d h

/-- The end of a number: a code point is put in its place. -/
def Reading.finish (r : Reading) (place : Nat) : Option Reading :=
  let count := r.out.length + 1
  let code := r.code + place / count
  let at_ := place % count
  if code < 0x110000 ∧ Nat.isValidChar code then
    some
      { out := r.out.take at_ ++ code :: r.out.drop at_
        code := code
        place := at_ + 1
        bias := adapt (place - r.before) count (r.before == 0)
        before := at_ + 1
        weight := 1
        k := 36 }
  else none

theorem Reading.digit_digitChar (r : Reading) {d : Nat} (h : d < 36) :
    r.digit (digitChar d) =
      if d < threshold r.k r.bias then r.finish (r.place + d * r.weight)
      else some { r with
        place := r.place + d * r.weight
        weight := r.weight * (36 - threshold r.k r.bias)
        k := r.k + 36 } := by
  unfold Reading.digit
  rw [digitValue?_digitChar h]
  rfl

/-- **The digits of a number** are read as the number. -/
theorem foldlM_numberDigits {bias k q : Nat} (r : Reading) (hbias : r.bias = bias) (hk : r.k = k) :
    (numberDigits bias k q).foldlM Reading.digit r = r.finish (r.place + q * r.weight) := by
  subst hbias
  generalize hb : r.bias = bias
  induction k, q using numberDigits.induct bias generalizing r with
  | case1 k q t hq =>
    obtain ⟨-, ht⟩ := threshold_bounds k bias
    rw [numberDigits, if_pos hq, List.foldlM_cons, r.digit_digitChar (by omega), hb, hk, if_pos hq]
    cases r.finish (r.place + q * r.weight) <;> rfl
  | case2 k q t hq ih =>
    obtain ⟨ht, ht'⟩ := threshold_bounds k bias
    have hmod := Nat.mod_lt (q - threshold k bias) (show 0 < 36 - threshold k bias by omega)
    have hsum := Nat.mod_add_div (q - threshold k bias) (36 - threshold k bias)
    rw [numberDigits, if_neg hq, List.foldlM_cons, r.digit_digitChar (by omega), hb, hk, if_neg (by omega)]
    -- One digit and the number that is left make up the whole number.
    have hvalue : threshold k bias + (q - threshold k bias) % (36 - threshold k bias) +
        (q - threshold k bias) / (36 - threshold k bias) * (36 - threshold k bias) = q := by
      rw [Nat.mul_comm] at hsum
      have : threshold k bias ≤ q := by omega
      omega
    refine (ih { r with
      bias := bias
      place := r.place + (threshold k bias + (q - threshold k bias) % (36 - threshold k bias)) * r.weight
      weight := r.weight * (36 - threshold k bias)
      k := k + 36 } rfl rfl).trans ?_
    change r.finish _ = _
    congr 1
    calc _ = r.place + (threshold k bias + (q - threshold k bias) % (36 - threshold k bias) +
          (q - threshold k bias) / (36 - threshold k bias) * (36 - threshold k bias)) * r.weight := by ring
      _ = _ := by rw [hvalue]

/-! ## What is written -/

/-- More digits were written. -/
def Writing.Grows (w w' : Writing) : Prop := ∃ text, w'.out = w.out ++ text ∧ ∀ c ∈ text, IsDigit c

theorem Writing.Grows.refl (w : Writing) : w.Grows w := ⟨[], by simp, by simp⟩

theorem Writing.Grows.trans {w w' w'' : Writing} (h : w.Grows w') (h' : w'.Grows w'') : w.Grows w'' := by
  obtain ⟨text, hout, htext⟩ := h
  obtain ⟨text', hout', htext'⟩ := h'
  refine ⟨text ++ text', by rw [hout', hout, List.append_assoc], fun c hc => ?_⟩
  rcases List.mem_append.mp hc with hc | hc
  · exact htext c hc
  · exact htext' c hc

theorem isDigit_of_mem_numberDigits {bias k q : Nat} {c : Char} (h : c ∈ numberDigits bias k q) :
    IsDigit c := by
  induction k, q using numberDigits.induct bias with
  | case1 k q t hq =>
    obtain ⟨-, ht⟩ := threshold_bounds k bias
    rw [numberDigits, if_pos hq, List.mem_singleton] at h
    exact ⟨q, by omega, h⟩
  | case2 k q t hq ih =>
    obtain ⟨ht, ht'⟩ := threshold_bounds k bias
    have hmod := Nat.mod_lt (q - threshold k bias) (show 0 < 36 - threshold k bias by omega)
    rw [numberDigits, if_neg hq, List.mem_cons] at h
    rcases h with h | h
    · exact ⟨_, by omega, h⟩
    · exact ih h

theorem Writing.grows_pass (w : Writing) (basic n c : Nat) : w.Grows (w.pass basic n c) := by
  unfold pass
  by_cases hlt : c < n
  · rw [if_pos hlt]
    exact ⟨[], by simp, by simp⟩
  by_cases heq : c = n
  · rw [if_neg hlt, if_pos heq]
    exact ⟨_, rfl, fun c => isDigit_of_mem_numberDigits⟩
  · rw [if_neg hlt, if_neg heq]
    exact .refl w

theorem Writing.grows_passes (w : Writing) (basic n : Nat) (codes : List Nat) :
    w.Grows (codes.foldl (pass basic n) w) := by
  induction codes generalizing w with
  | nil => exact .refl w
  | cons c codes ih => exact (w.grows_pass basic n c).trans (ih _)

theorem Writing.grows_level (label : List Nat) (basic : Nat) (state : Writing × Nat) (n : Nat) :
    state.1.Grows (level label basic state n).1 := by
  obtain ⟨text, hout, htext⟩ := grows_passes
    { state.1 with delta := state.1.delta + (n - state.2) * (state.1.done + 1) } basic n label
  exact ⟨text, hout, htext⟩

theorem Writing.grows_levels (label : List Nat) (basic : Nat) (state : Writing × Nat) (codes : List Nat) :
    state.1.Grows (codes.foldl (level label basic) state).1 := by
  induction codes generalizing state with
  | nil => exact .refl _
  | cons n codes ih => exact (grows_level label basic state n).trans (ih _)

/-! ## The reader follows the writer -/

/-- The reader has read what the writer has written when it has passed `front` at the level of `n`, with `back`
still to pass. The code points that are done are in their places, and the places that both have counted lead
to the same next one. -/
structure Follows (basic : Nat) (w : Writing) (r : Reading) (n : Nat) (front back : List Nat) : Prop where
  out : r.out = front.filter (· ≤ n) ++ back.filter (· < n)
  code : r.code ≤ n
  place : r.place + w.delta =
    (n - r.code) * (r.out.length + 1) + (front.filter (· ≤ n)).length
  before : r.before = r.place
  bias : r.bias = w.bias
  weight : r.weight = 1
  k : r.k = 36
  done : w.done = r.out.length
  basic_le : basic ≤ w.done
  first : (r.before == 0) = (w.done == basic)

/-- A code point below the level is counted. -/
theorem Follows.count (h : Follows basic w r n front (c :: back)) (hlt : c < n) :
    Follows basic { w with delta := w.delta + 1 } r n (front ++ [c]) back := by
  obtain ⟨rout, rcode, rplace, rbefore, rbias, rweight, rk, rdone, rbasic, rfirst⟩ := h
  have hle : c ≤ n := Nat.le_of_lt hlt
  refine ⟨by simp [rout, hlt, hle], rcode, ?_, rbefore, rbias, rweight, rk, rdone, rbasic, rfirst⟩
  simp only [List.filter_append, List.filter_cons, hle, decide_true, if_true, List.filter_nil,
    List.length_append, List.length_singleton]
  omega

/-- A code point above the level is left to a later one. -/
theorem Follows.leave (h : Follows basic w r n front (c :: back)) (hgt : n < c) :
    Follows basic w r n (front ++ [c]) back := by
  obtain ⟨rout, rcode, rplace, rbefore, rbias, rweight, rk, rdone, rbasic, rfirst⟩ := h
  have hnlt : ¬ c < n := by omega
  have hnle : ¬ c ≤ n := by omega
  refine ⟨by simp [rout, hnlt, hnle], rcode, ?_, rbefore, rbias, rweight, rk, rdone, rbasic, rfirst⟩
  simpa [hnle] using rplace

/-- **A code point of the level is written**, and its digits put it in its place. -/
theorem Follows.write (h : Follows basic w r n front (n :: back))
    (hread : (numberDigits w.bias 36 w.delta).foldlM Reading.digit r = some r') :
    Follows basic
      { out := w.out ++ numberDigits w.bias 36 w.delta, delta := 0,
        bias := adapt w.delta (w.done + 1) (w.done == basic), done := w.done + 1 }
      r' n (front ++ [n]) back := by
  obtain ⟨rout, rcode, rplace, rbefore, rbias, rweight, rk, rdone, rbasic, rfirst⟩ := h
  rw [foldlM_numberDigits r rbias rk, rweight, Nat.mul_one] at hread
  -- The number leads to the level of the code point and past what is done in front of it.
  have hfront : (front.filter (· ≤ n)).length < r.out.length + 1 := by
    rw [rout, List.length_append]
    omega
  have hdiv : (r.place + w.delta) / (r.out.length + 1) = n - r.code := by
    rw [rplace, Nat.mul_comm, Nat.mul_add_div (Nat.succ_pos _), Nat.div_eq_of_lt hfront, Nat.add_zero]
  have hmod : (r.place + w.delta) % (r.out.length + 1) = (front.filter (· ≤ n)).length := by
    rw [rplace, Nat.mul_comm, Nat.mul_add_mod, Nat.mod_eq_of_lt hfront]
  unfold Reading.finish at hread
  simp only [hdiv, hmod, Nat.add_sub_cancel' rcode] at hread
  split at hread
  · cases hread
    have htake : r.out.take (front.filter (· ≤ n)).length = front.filter (· ≤ n) := by
      rw [rout, List.take_left]
    have hdrop : r.out.drop (front.filter (· ≤ n)).length = (n :: back).filter (· < n) := by
      rw [rout, List.drop_left]
    have hmore : r.place + w.delta - r.before = w.delta := by omega
    constructor
    · simp [htake, hdrop]
    · exact Nat.le_refl n
    · simp
    · rfl
    · simp only [hmore, rdone, rfirst]
    · rfl
    · rfl
    · simp [rdone, rout]
      omega
    · exact Nat.le_succ_of_le rbasic
    · have hlater : w.done + 1 ≠ basic := by omega
      simp [hlater]
  · cases hread

/-- **One code point is passed**, and what was written for it is read. -/
theorem Follows.pass (h : Follows basic w r n front (c :: back))
    (hout : (w.pass basic n c).out = w.out ++ text) (hread : text.foldlM Reading.digit r = some r') :
    Follows basic (w.pass basic n c) r' n (front ++ [c]) back := by
  unfold Writing.pass at hout ⊢
  by_cases hlt : c < n
  · rw [if_pos hlt] at hout ⊢
    have hnone : text = [] := by simpa using hout
    subst hnone
    cases hread
    exact h.count hlt
  by_cases heq : c = n
  · subst heq
    rw [if_neg hlt, if_pos rfl] at hout ⊢
    have htext : text = numberDigits w.bias 36 w.delta := (List.append_cancel_left hout).symm
    subst htext
    exact h.write hread
  · rw [if_neg hlt, if_neg heq] at hout ⊢
    have hnone : text = [] := by simpa using hout
    subst hnone
    cases hread
    exact h.leave (by omega)

theorem exists_of_foldlM_append {text text' : List Char}
    (h : (text ++ text').foldlM Reading.digit r = some r') :
    ∃ mid, text.foldlM Reading.digit r = some mid ∧ text'.foldlM Reading.digit mid = some r' := by
  rw [List.foldlM_append] at h
  exact Option.bind_eq_some_iff.mp h

theorem Follows.passes (h : Follows basic w r n front back)
    (hout : (back.foldl (Writing.pass basic n) w).out = w.out ++ text)
    (hread : text.foldlM Reading.digit r = some r') :
    Follows basic (back.foldl (Writing.pass basic n) w) r' n (front ++ back) [] := by
  induction back generalizing w r front text with
  | nil =>
    have hnone : text = [] := by simpa using hout
    subst hnone
    cases hread
    rwa [List.append_nil]
  | cons c back ih =>
    obtain ⟨first, hfirst, -⟩ := w.grows_pass basic n c
    obtain ⟨rest, hrest, -⟩ := (w.pass basic n c).grows_passes basic n back
    have htext : text = first ++ rest := by
      rw [List.foldl_cons, hrest, hfirst, List.append_assoc] at hout
      exact (List.append_cancel_left hout).symm
    obtain ⟨mid, hmid, hread⟩ := exists_of_foldlM_append (htext ▸ hread)
    rw [List.append_cons, List.foldl_cons]
    exact ih (h.pass hfirst hmid) hrest hread

/-- Between two levels the writer counts the places of the levels that hold nothing. -/
theorem Follows.raise (h : Follows basic w r next [] label) (hn : next ≤ n)
    (hnone : ∀ c ∈ label, next ≤ c → n ≤ c) :
    Follows basic { w with delta := w.delta + (n - next) * (w.done + 1) } r n [] label := by
  obtain ⟨rout, rcode, rplace, rbefore, rbias, rweight, rk, rdone, rbasic, rfirst⟩ := h
  refine ⟨?_, Nat.le_trans rcode hn, ?_, rbefore, rbias, rweight, rk, rdone, rbasic, rfirst⟩
  · rw [rout, List.filter_nil, List.nil_append, List.filter_nil, List.nil_append]
    refine List.filter_congr fun c hc => decide_eq_decide.mpr ⟨fun h => by omega, fun h => ?_⟩
    by_contra hge
    have := hnone c hc (by omega)
    omega
  · have hlevels : n - r.code = (next - r.code) + (n - next) := by omega
    rw [hlevels, Nat.add_mul]
    dsimp only
    rw [rdone] at *
    simp only [List.filter_nil, List.length_nil, Nat.add_zero] at rplace ⊢
    omega

/-- At the end of a level the whole label was passed. -/
theorem Follows.close (h : Follows basic w r n label []) :
    Follows basic { w with delta := w.delta + 1 } r (n + 1) [] label := by
  obtain ⟨rout, rcode, rplace, rbefore, rbias, rweight, rk, rdone, rbasic, rfirst⟩ := h
  have hbelow : label.filter (· ≤ n) = label.filter (· < n + 1) :=
    List.filter_congr fun c _ => decide_eq_decide.mpr Nat.lt_succ_iff.symm
  refine ⟨by simp [rout, hbelow], Nat.le_succ_of_le rcode, ?_, rbefore, rbias, rweight, rk, rdone,
    rbasic, rfirst⟩
  have hwhole : (label.filter (· ≤ n)).length = r.out.length := by simp [rout]
  have hlevels : n + 1 - r.code = (n - r.code) + 1 := by omega
  rw [hlevels, Nat.add_mul, Nat.one_mul]
  simp only [List.filter_nil, List.length_nil, Nat.add_zero]
  omega

/-- **One level is read.** -/
theorem Follows.level (h : Follows basic w r next [] label) (hn : next ≤ n)
    (hnone : ∀ c ∈ label, next ≤ c → n ≤ c)
    (hout : (Writing.level label basic (w, next) n).1.out = w.out ++ text)
    (hread : text.foldlM Reading.digit r = some r') :
    Follows basic (Writing.level label basic (w, next) n).1 r' (n + 1) [] label :=
  ((h.raise hn hnone).passes hout hread).close

/-- **All levels are read**, and then the label is there. -/
theorem Follows.levels (h : Follows basic w r next [] label) (hsorted : codes.Pairwise (· < ·))
    (hnext : ∀ n ∈ codes, next ≤ n) (hall : ∀ c ∈ label, next ≤ c → c ∈ codes)
    (hout : (codes.foldl (Writing.level label basic) (w, next)).1.out = w.out ++ text)
    (hread : text.foldlM Reading.digit r = some r') : r'.out = label := by
  induction codes generalizing w r next text with
  | nil =>
    have hnone : text = [] := by simpa using hout
    subst hnone
    cases hread
    rw [h.out, List.filter_nil, List.nil_append, List.filter_eq_self]
    intro c hc
    by_contra hge
    exact List.not_mem_nil (hall c hc (by simpa using hge))
  | cons n codes ih =>
    obtain ⟨hlater, hsorted⟩ := List.pairwise_cons.mp hsorted
    obtain ⟨first, hfirst, -⟩ := Writing.grows_level label basic (w, next) n
    obtain ⟨rest, hrest, -⟩ :=
      Writing.grows_levels label basic (Writing.level label basic (w, next) n) codes
    have htext : text = first ++ rest := by
      rw [List.foldl_cons, hrest, hfirst, List.append_assoc] at hout
      exact (List.append_cancel_left hout).symm
    obtain ⟨mid, hmid, hread⟩ := exists_of_foldlM_append (htext ▸ hread)
    have hnone : ∀ c ∈ label, next ≤ c → n ≤ c := by
      intro c hc hge
      rcases List.mem_cons.mp (hall c hc hge) with rfl | hmem
      · exact Nat.le_refl c
      · exact Nat.le_of_lt (hlater c hmem)
    refine ih (h.level (hnext n List.mem_cons_self) hnone hfirst hmid) hsorted hlater (fun c hc hge => ?_)
      hrest hread
    rcases List.mem_cons.mp (hall c hc (by have := hnext n List.mem_cons_self; omega)) with rfl | hmem
    · omega
    · exact hmem

/-! ## Whole labels -/

theorem pairwise_lt_eraseDups {codes : List Nat} (h : codes.Pairwise (· ≤ ·)) :
    codes.eraseDups.Pairwise (· < ·) := by
  induction hlength : codes.length using Nat.strongRecOn generalizing codes with
  | ind length ih =>
    cases codes with
    | nil => exact List.Pairwise.nil
    | cons n codes =>
      obtain ⟨hle, hrest⟩ := List.pairwise_cons.mp h
      have hshorter := List.length_filter_le (fun m => !m == n) codes
      rw [List.length_cons] at hlength
      rw [List.eraseDups_cons]
      refine List.pairwise_cons.mpr ⟨fun m hm => ?_, ih _ (by omega) (hrest.filter _) rfl⟩
      obtain ⟨hmem, hother⟩ := List.mem_filter.mp (List.mem_eraseDups.mp hm)
      have hne : m ≠ n := by simpa using hother
      have := hle m hmem
      omega

/-- The code points of a label that are not ASCII, in order. -/
def levels (label : List Nat) : List Nat := (label.filter (128 ≤ ·)).mergeSort.eraseDups

theorem pairwise_levels (label : List Nat) : (levels label).Pairwise (· < ·) := by
  refine pairwise_lt_eraseDups ?_
  exact List.pairwise_mergeSort' (· ≤ ·) _

theorem mem_levels {c : Nat} : c ∈ levels label ↔ c ∈ label ∧ 128 ≤ c := by
  unfold levels
  rw [List.mem_eraseDups, List.mem_mergeSort, List.mem_filter, decide_eq_true_eq]

/-- The ASCII characters of a label with their hyphen. -/
def basicText (label : List Nat) : List Char :=
  (label.filter (· < 128)).map Char.ofNat ++ if (label.filter (· < 128)).isEmpty then [] else ['-']

/-- How a label begins to be written. -/
def startOf (label : List Nat) : Writing :=
  ⟨basicText label, 0, initialBias, (label.filter (· < 128)).length⟩

theorem encode_eq (label : List Nat) :
    encode label =
      ((levels label).foldl (Writing.level label (label.filter (· < 128)).length) (startOf label, 128)).1.out :=
  rfl

/-- **The ASCII form of a label**: its ASCII characters, and digits. -/
theorem exists_encode (label : List Nat) : ∃ text, encode label = basicText label ++ text ∧
    ∀ c ∈ text, IsDigit c := by
  rw [encode_eq]
  exact Writing.grows_levels label _ (startOf label, 128) (levels label)

/-- The last place of a character in a text parts it. -/
theorem splitAtLast_append {c : Char} {back : List Char} (front : List Char) (h : c ∉ back) :
    ((front ++ c :: back).reverse.takeWhile (· ≠ c)).reverse = back ∧
      (((front ++ c :: back).reverse.dropWhile (· ≠ c)).drop 1).reverse = front := by
  have hback : ∀ x ∈ back.reverse, decide (x ≠ c) = true := by
    intro x hx
    exact decide_eq_true fun heq => h (heq ▸ List.mem_reverse.mp hx)
  rw [List.reverse_append, List.reverse_cons, List.append_assoc, List.takeWhile_append_of_pos hback,
    List.dropWhile_append_of_pos hback]
  simp

theorem toNat_ofNat_of_lt {n : Nat} (h : n < 128) : (Char.ofNat n).toNat = n := by
  have hvalid : n.isValidChar := Or.inl (by omega)
  rw [Char.ofNat, dif_pos hvalid]
  rfl

theorem isDigit_ne_hyphen {c : Char} (h : IsDigit c) : c ≠ '-' := by
  obtain ⟨d, hd, rfl⟩ := h
  exact (by decide : ∀ d < 36, digitChar d ≠ '-') d hd

/-- Reads digits behind ASCII characters. -/
def readDigits (basic : List Nat) (digits : List Char) : Option (List Nat) := do
  let r ← digits.foldlM Reading.digit ⟨basic, 128, 0, initialBias, 0, 1, 36⟩
  if r.k = 36 then some r.out else none

theorem decode?_of_not_mem {digits : List Char} (h : '-' ∉ digits) : decode? digits = readDigits [] digits := by
  have hcontains : digits.contains '-' = false := by simpa using h
  unfold decode?
  dsimp only
  simp only [hcontains]
  rfl

theorem decode?_append {front digits : List Char} (h : '-' ∉ digits)
    (hfront : ∀ c ∈ front, c.toNat < 128) :
    decode? (front ++ '-' :: digits) = readDigits (front.map Char.toNat) digits := by
  obtain ⟨hdigits, hbasic⟩ := splitAtLast_append front h
  have hcontains : (front ++ '-' :: digits).contains '-' = true := by simp
  have hascii : front.any (128 ≤ ·.toNat) = false := by
    rw [List.any_eq_false]
    intro c hc
    have := hfront c hc
    simpa using this
  unfold decode?
  dsimp only
  rw [hcontains, if_pos rfl, if_pos rfl, hdigits, hbasic, hascii, if_neg (by decide)]
  rfl

/-- What is read of an ASCII form. -/
theorem decode?_basicText_append {digits : List Char} (hdigits : ∀ c ∈ digits, IsDigit c) :
    decode? (basicText label ++ digits) = readDigits (label.filter (· < 128)) digits := by
  have hhyphen : '-' ∉ digits := fun hmem => isDigit_ne_hyphen (hdigits _ hmem) rfl
  have hsmall : ∀ n ∈ label.filter (· < 128), n < 128 := fun n hn => by
    simpa using (List.mem_filter.mp hn).2
  unfold basicText
  by_cases hempty : label.filter (· < 128) = []
  · rw [hempty]
    exact decode?_of_not_mem hhyphen
  · have hne : (label.filter (· < 128)).isEmpty = false := by simpa using hempty
    rw [hne, if_neg (by decide), List.append_assoc, List.singleton_append,
      decode?_append hhyphen fun c hc => ?_]
    · congr 1
      rw [List.map_map]
      exact (List.map_congr_left fun n hn => toNat_ofNat_of_lt (hsmall n hn)).trans (List.map_id' _)
    · obtain ⟨n, hn, rfl⟩ := List.mem_map.mp hc
      have := hsmall n hn
      rwa [toNat_ofNat_of_lt this]

/-- **Punycode is read back**: if what was written can be read, the label is read. -/
theorem eq_of_decode?_encode {label' : List Nat} (h : decode? (encode label) = some label') :
    label' = label := by
  obtain ⟨digits, hencode, hdigits⟩ := exists_encode label
  have hout := hencode
  rw [encode_eq] at hout
  rw [hencode, decode?_basicText_append hdigits] at h
  obtain ⟨r, hread, h⟩ := Option.bind_eq_some_iff.mp h
  have hstart : Follows (label.filter (· < 128)).length (startOf label)
      ⟨label.filter (· < 128), 128, 0, initialBias, 0, 1, 36⟩ 128 [] label := by
    refine ⟨by simp, Nat.le_refl _, by simp [startOf], rfl, rfl, rfl, rfl, rfl, Nat.le_refl _, ?_⟩
    simp [startOf]
  have hlabel := hstart.levels (pairwise_levels label) (fun n hn => (mem_levels.mp hn).2)
    (fun c hc hge => mem_levels.mpr ⟨hc, hge⟩) hout hread
  split at h
  · cases h
    exact hlabel
  · cases h

/-! ## What can be read at all -/

/-- What is read of a label: the next code point is not ASCII, and `p` holds of those that are there. -/
def Reads (p : Nat → Prop) (r : Reading) : Prop := 128 ≤ r.code ∧ ∀ n ∈ r.out, p n

/-- One digit adds no code point but one that is not ASCII. -/
theorem Reads.digit {p : Nat → Prop} (hp : ∀ n, 128 ≤ n → p n) {r r' : Reading} {c : Char}
    (h : r.digit c = some r') (hr : Reads p r) : Reads p r' := by
  obtain ⟨hcode, hout⟩ := hr
  unfold Reading.digit at h
  obtain ⟨d, -, h⟩ := Option.bind_eq_some_iff.mp h
  dsimp only at h
  by_cases hd : d < threshold r.k r.bias
  · rw [if_pos hd] at h
    split at h
    · cases h
      refine ⟨Nat.le_add_right_of_le hcode, fun n hn => ?_⟩
      rcases List.mem_append.mp hn with hn | hn
      · exact hout n (List.mem_of_mem_take hn)
      rcases List.mem_cons.mp hn with rfl | hn
      · exact hp _ (Nat.le_add_right_of_le hcode)
      · exact hout n (List.mem_of_mem_drop hn)
    · cases h
  · rw [if_neg hd] at h
    cases h
    exact ⟨hcode, hout⟩

theorem Reads.digits {p : Nat → Prop} (hp : ∀ n, 128 ≤ n → p n) {cs : List Char} {r r' : Reading}
    (h : cs.foldlM Reading.digit r = some r') (hr : Reads p r) : Reads p r' := by
  induction cs generalizing r with
  | nil =>
    cases h
    exact hr
  | cons c cs ih =>
    rw [List.foldlM_cons] at h
    obtain ⟨next, hnext, h⟩ := Option.bind_eq_some_iff.mp h
    exact ih h (hr.digit hp hnext)

/-- What is read after the characters of `basic`. -/
theorem codes_of_foldlM {cs basic digits : List Char} {label : List Nat} (hbasic : ∀ c ∈ basic, c ∈ cs)
    (h : (do
      let r ← digits.foldlM Reading.digit ⟨basic.map Char.toNat, 128, 0, initialBias, 0, 1, 36⟩
      if r.k = 36 then some r.out else none) = some label) :
    ∀ n ∈ label, 128 ≤ n ∨ n ∈ cs.map Char.toNat := by
  obtain ⟨r, hr, h⟩ := Option.bind_eq_some_iff.mp h
  have hstart : Reads (fun n => 128 ≤ n ∨ n ∈ cs.map Char.toNat)
      ⟨basic.map Char.toNat, 128, 0, initialBias, 0, 1, 36⟩ := by
    refine ⟨Nat.le_refl _, fun n hn => Or.inr ?_⟩
    obtain ⟨c, hc, rfl⟩ := List.mem_map.mp hn
    exact List.mem_map.mpr ⟨c, hbasic c hc, rfl⟩
  have hread := hstart.digits (fun n hn => Or.inl hn) hr
  by_cases hk : r.k = 36
  · rw [if_pos hk] at h
    cases h
    exact hread.2
  · rw [if_neg hk] at h
    cases h

/-- **Punycode adds only code points that are not ASCII.** -/
theorem decode?_codes {cs : List Char} {label : List Nat} (h : decode? cs = some label) :
    ∀ n ∈ label, 128 ≤ n ∨ n ∈ cs.map Char.toNat := by
  have hfront : ∀ c ∈ ((cs.reverse.dropWhile (· ≠ '-')).drop 1).reverse, c ∈ cs := by
    intro c hc
    have hdropped := List.mem_of_mem_drop (List.mem_reverse.mp hc)
    exact List.mem_reverse.mp ((List.dropWhile_sublist _).subset hdropped)
  unfold decode? at h
  dsimp only at h
  by_cases hbasic : cs.contains '-' = true
  · rw [if_pos hbasic, if_pos hbasic] at h
    split at h
    · cases h
    · exact codes_of_foldlM hfront h
  · rw [if_neg hbasic, if_neg hbasic] at h
    exact codes_of_foldlM (by simp : ∀ c ∈ [], c ∈ cs) h

end Checkout.Punycode
