import Checkout.Number.Numeral
import Mathlib.Algebra.Group.Nat.Defs
import Mathlib.Data.List.Basic

/-!
# Numerals are read back

Results:
* `digits?_toDigits`, `ofDigits_decimal`: a number is read back from its digits;
* `lt_of_digits?`: digits name a number of so many digits.
-/

namespace Checkout.Number

theorem digit?_digitChar {k : Nat} (h : k < 16) : digit? (Nat.digitChar k) = some k :=
  (by decide : ∀ k < 16, digit? (Nat.digitChar k) = some k) k h

theorem digits?_append {base : Nat} (ds : List Char) (c : Char) :
    digits? base (ds ++ [c]) =
      (digits? base ds).bind fun n => ((digit? c).filter (· < base)).map (n * base + ·) := by
  unfold digits?
  rw [List.foldlM_append]
  simp only [List.foldlM_cons, List.foldlM_nil, Option.bind_eq_bind, Option.pure_def, Option.bind_fun_some]

/-- **A number is read back** from its digits. -/
theorem digits?_toDigits {base : Nat} (hb : 1 < base) (hb' : base ≤ 16) (n : Nat) :
    digits? base (Nat.toDigits base n) = some n := by
  have hlast : ∀ m k, k < base →
      ((digit? (Nat.digitChar k)).filter (· < base)).map (m * base + ·) = some (m * base + k) := by
    intro m k hk
    rw [digit?_digitChar (by omega), Option.filter_some, if_pos (decide_eq_true hk)]
    rfl
  induction n using Nat.strongRecOn with
  | ind n ih =>
    rw [Nat.toDigits_eq_if hb]
    by_cases hn : n < base
    · rw [if_pos hn, ← List.nil_append [Nat.digitChar n], digits?_append]
      exact (hlast 0 n hn).trans (by rw [Nat.zero_mul, Nat.zero_add])
    · rw [if_neg hn, digits?_append, ih _ (Nat.div_lt_self (by omega) hb), Option.bind_some,
        hlast _ _ (Nat.mod_lt _ (by omega)), Nat.div_add_mod']

theorem lt_of_foldlM {base m n : Nat} {ds : List Char}
    (h : ds.foldlM (fun n c => ((digit? c).filter (· < base)).map (n * base + ·)) m = some n) :
    n < (m + 1) * base ^ ds.length := by
  induction ds generalizing m with
  | nil =>
    cases h
    simp
  | cons c ds ih =>
    rw [List.foldlM_cons] at h
    obtain ⟨next, hnext, h⟩ := Option.bind_eq_some_iff.mp h
    obtain ⟨d, hd, rfl⟩ := Option.map_eq_some_iff.mp hnext
    have hdigit : d < base := by simpa using (Option.filter_eq_some_iff.mp hd).2
    have hstep : m * base + d + 1 ≤ (m + 1) * base := by
      rw [Nat.add_mul]
      omega
    calc n < (m * base + d + 1) * base ^ ds.length := ih h
      _ ≤ (m + 1) * base * base ^ ds.length := Nat.mul_le_mul_right _ hstep
      _ = (m + 1) * base ^ (ds.length + 1) := by rw [Nat.pow_succ', Nat.mul_assoc]

/-- Digits name a number of so many digits. -/
theorem lt_of_digits? {base n : Nat} {ds : List Char} (h : digits? base ds = some n) :
    n < base ^ ds.length := by
  simpa using lt_of_foldlM h

/-- A number in decimal is read back. -/
theorem ofDigits_decimal (n : Nat) : ofDigits (decimal n) = n := by
  have hfold : ofDigits (decimal n) = Nat.ofDigitChars 10 (Nat.toDigits 10 n) 0 := by
    unfold ofDigits decimal Nat.ofDigitChars
    simp only [Nat.mul_comm]
  rw [hfold, Nat.ofDigitChars_ten_toDigits]

theorem isDigit_of_mem_decimal {k : Nat} {c : Char} (h : c ∈ decimal k) : c.isDigit = true :=
  Nat.isDigit_of_mem_toDigits (by decide) (by decide) h

theorem decimal_ne_nil (k : Nat) : decimal k ≠ [] := Nat.toDigits_ne_nil

end Checkout.Number
