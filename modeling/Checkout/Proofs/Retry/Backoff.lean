import Checkout.Proofs.Retry.Ceiling
import Mathlib.Algebra.Order.Ring.Nat
import Mathlib.Algebra.BigOperators.Group.Finset.Basic
import Mathlib.Algebra.BigOperators.Ring.Finset

/-!
# Delays that grow by a whole number

The delay between two attempts is multiplied by the factor, in double precision, rounded down and held to
the ceiling, each time anew. Where the factor is a whole number and the products stay below `2 ^ 53` nothing
is rounded. Then the delays are the base delay times the powers of the factor, and holding each of them to the
ceiling is the same as holding the power to it once: a delay that has reached the ceiling stays there, as the
factor is at least one.

Results:
* `roundSignificant_of_le`: a number with few enough significant digits is not rounded;
* `grow_ofNat`: one delay is multiplied exactly;
* `iterate_nextDelay`: the delays one after another, by induction on their number;
* `pauses_geometric`: the pauses of a run.
-/

namespace Checkout

/-! ## Exact products -/

namespace Number

theorem roundDiv_of_dvd {num den : Nat} (hden : 0 < den) (h : den ∣ num) :
    roundDiv num den = num / den := by
  simp [roundDiv, Nat.mod_eq_zero_of_dvd h, hden]

/-- The digits that do not fit are all zero. -/
theorem roundSignificant_of_dvd {digits n : Nat} (h : 2 ^ (n.log2 + 1 - digits) ∣ n) :
    roundSignificant digits n 1 = n := by
  have hexact : roundDiv n (1 * 2 ^ (n.log2 + 1 - digits)) = n / 2 ^ (n.log2 + 1 - digits) := by
    rw [Nat.one_mul, roundDiv_of_dvd (Nat.two_pow_pos _) h]
  simp only [roundSignificant, Nat.div_one, Nat.pow_eq, hexact]
  exact Nat.div_mul_cancel h

/-- **A number with few enough significant digits is not rounded.** The least number that needs one digit
more has zeros behind it. -/
theorem roundSignificant_of_le {digits m : Nat} (hdigits : 1 ≤ digits) (h : m ≤ 2 ^ digits) (e : Nat) :
    roundSignificant digits (m * 2 ^ e) 1 = m * 2 ^ e := by
  refine roundSignificant_of_dvd ?_
  rcases Nat.lt_or_eq_of_le h with hlt | rfl
  · by_cases hm : m = 0
    · simp [hm]
    · have hwhole : (m * 2 ^ e).log2 < digits + e := by
        rw [Nat.log2_lt (by simp [hm]), Nat.pow_add]
        exact Nat.mul_lt_mul_of_pos_right hlt (Nat.two_pow_pos e)
      exact (Nat.pow_dvd_pow 2 (by omega)).trans (Nat.dvd_mul_left _ _)
  · rw [← Nat.pow_add, Nat.log2_two_pow]
    exact Nat.pow_dvd_pow 2 (by omega)

namespace Binary64

/-- The double that is a whole number. -/
def ofNat (n : Nat) : Binary64 := ⟨n * unit⟩

theorem unit_pos : 0 < unit := by
  rw [unit, Nat.pow_eq]
  exact Nat.two_pow_pos _

theorem floor_ofNat (n : Nat) : (ofNat n).floor = n := Nat.mul_div_cancel n unit_pos

/-- **Whole numbers are multiplied exactly**, as long as the product is at most `2 ^ 53`. -/
theorem scale?_ofNat {n f : Nat} (hf : 1 ≤ f) (h : n * f ≤ 2 ^ 53) :
    (ofNat f).scale? n = some (ofNat (n * f)) := by
  have hn : roundSignificant 53 n 1 = n := by
    have hle : n ≤ 2 ^ 53 := (Nat.le_mul_of_pos_right n hf).trans h
    simpa using roundSignificant_of_le (by decide) hle 0
  have hproduct : roundSignificant 53 (n * (ofNat f).units) 1 = n * f * unit := by
    rw [ofNat, ← Nat.mul_assoc, unit, Nat.pow_eq]
    exact roundSignificant_of_le (by decide) h _
  have hlimit : n * f * unit < limit := by
    have hunit : 2 ^ 53 * unit < limit := by
      rw [unit, limit, Nat.pow_eq, Nat.pow_eq, ← Nat.pow_add]
      exact Nat.pow_lt_pow_right (by omega) (by omega)
    exact (Nat.mul_le_mul_right _ h).trans_lt hunit
  simp only [scale?, hn, hproduct, if_pos hlimit]
  rfl

end Binary64

end Number

namespace RetryPolicy

open Number (Binary64)

variable {p : RetryPolicy} {f : Nat}

/-! ## One delay after another -/

/-- A product that is not too long is rounded down. -/
theorem grow_of_scale? {factor x : Binary64} {d : Duration} (h : factor.scale? d.nanos = some x)
    (hshort : ¬ longestDelay.nanos < x.floor) : grow factor d = ⟨x.floor⟩ := by
  delta grow
  rw [h]
  exact if_neg hshort

theorem grow_ofNat {d : Duration} (hf : 1 ≤ f) (h : d.nanos * f ≤ 2 ^ 53) :
    grow (.ofNat f) d = ⟨d.nanos * f⟩ := by
  have hshort : ¬ longestDelay.nanos < (Binary64.ofNat (d.nanos * f)).floor := by
    rw [Binary64.floor_ofNat]
    simp only [longestDelay]
    omega
  rw [grow_of_scale? (Binary64.scale?_ofNat hf h) hshort, Binary64.floor_ofNat]

/-- The delay that follows another one, where the product is exact. -/
theorem nextDelay_ofNat {d : Duration} (hfactor : p.factor = .ofNat f) (hf : 1 ≤ f)
    (h : d.nanos * f ≤ 2 ^ 53) :
    (p.nextDelay d).nanos =
      match p.maxDelay with
      | some ceiling => min ceiling.nanos (d.nanos * f)
      | none => d.nanos * f := by
  simp only [nextDelay, hfactor, grow_ofNat hf h]
  cases p.maxDelay with
  | none => rfl
  | some ceiling =>
    by_cases hlong : ceiling.nanos < d.nanos * f
    · simp [hlong, hlong.le]
    · simp [hlong, Nat.not_lt.mp hlong]

/-- What the law says of the pause number `k`, counted from zero: the base delay times a power of the
factor, but not more than the ceiling. The first pause is not held to the ceiling. -/
def lawfulNanos (p : RetryPolicy) (f : Nat) : Nat → Nat
  | 0 => p.baseDelay.nanos
  | k + 1 =>
    match p.maxDelay with
    | some ceiling => min ceiling.nanos (p.baseDelay.nanos * f ^ (k + 1))
    | none => p.baseDelay.nanos * f ^ (k + 1)

/-- The products up to the pause number `k` are exact: none is needed for the first pause; under a ceiling no
product is greater than that of the factor with the base delay or the ceiling; and without one the greatest
product is the pause itself. -/
def StaysExact (p : RetryPolicy) (f : Nat) : Nat → Prop
  | 0 => True
  | k + 1 =>
    match p.maxDelay with
    | some ceiling => f * p.baseDelay.nanos ≤ 2 ^ 53 ∧ f * ceiling.nanos ≤ 2 ^ 53
    | none => p.baseDelay.nanos * f ^ (k + 1) ≤ 2 ^ 53

/-- Products that are exact up to a pause are exact before it. -/
theorem StaysExact.pred {k : Nat} (hf : 1 ≤ f) (h : p.StaysExact f (k + 1)) : p.StaysExact f k := by
  cases k with
  | zero => trivial
  | succ k =>
    unfold StaysExact at h ⊢
    cases hceiling : p.maxDelay with
    | some ceiling =>
      rw [hceiling] at h
      exact h
    | none =>
      rw [hceiling] at h
      exact (Nat.mul_le_mul_left _ (Nat.pow_le_pow_right hf (Nat.le_succ _))).trans h

/-- The product that makes the next pause is exact. -/
theorem StaysExact.product {k : Nat} (h : p.StaysExact f (k + 1)) :
    p.lawfulNanos f k * f ≤ 2 ^ 53 := by
  unfold StaysExact at h
  cases hceiling : p.maxDelay with
  | none =>
    rw [hceiling] at h
    dsimp only at h
    rw [Nat.pow_succ, ← Nat.mul_assoc] at h
    cases k with
    | zero => simpa [lawfulNanos] using h
    | succ k => simpa [lawfulNanos, hceiling] using h
  | some ceiling =>
    rw [hceiling] at h
    obtain ⟨hbase, hmax⟩ := h
    rw [Nat.mul_comm]
    cases k with
    | zero => exact hbase
    | succ k =>
      simp only [lawfulNanos, hceiling]
      exact (Nat.mul_le_mul_left f (Nat.min_le_left _ _)).trans hmax

/-- **The law goes on**: multiplied and held to the ceiling once more, a lawful pause gives the next one. -/
theorem lawfulNanos_succ (hf : 1 ≤ f) (k : Nat) :
    p.lawfulNanos f (k + 1) =
      match p.maxDelay with
      | some ceiling => min ceiling.nanos (p.lawfulNanos f k * f)
      | none => p.lawfulNanos f k * f := by
  cases hceiling : p.maxDelay with
  | none => cases k <;> simp [lawfulNanos, hceiling, Nat.pow_succ, Nat.mul_assoc]
  | some ceiling =>
    cases k with
    | zero => simp [lawfulNanos, hceiling]
    | succ k =>
      have hstays : ceiling.nanos ≤ ceiling.nanos * f := Nat.le_mul_of_pos_right _ hf
      simp only [lawfulNanos, hceiling]
      rw [← Nat.mul_min_mul_right, ← Nat.min_assoc, Nat.min_eq_left hstays, Nat.pow_succ _ (k + 1), Nat.mul_assoc]

/-- **The delays one after another** follow the law, as long as the products are exact. -/
theorem iterate_nextDelay (hfactor : p.factor = .ofNat f) (hf : 1 ≤ f) {k : Nat}
    (h : p.StaysExact f k) : (p.nextDelay^[k] p.baseDelay).nanos = p.lawfulNanos f k := by
  induction k with
  | zero => rfl
  | succ k ih =>
    have hbefore := ih (h.pred hf)
    rw [Function.iterate_succ_apply', nextDelay_ofNat hfactor hf (hbefore ▸ h.product), hbefore,
      lawfulNanos_succ hf]

/-! ## The pauses of a run -/

theorem sum_take_of_lawful {waits : List Duration} (hceiling : p.maxDelay = none) {k : Nat}
    (hk : k ≤ waits.length)
    (h : ∀ i < k, (waits[i]?).map Duration.nanos = some (p.lawfulNanos f i)) :
    ((waits.take k).map Duration.nanos).sum = p.baseDelay.nanos * ∑ i ∈ Finset.range k, f ^ i := by
  induction k with
  | zero => simp
  | succ k ih =>
    have hlast := h k (Nat.lt_succ_self k)
    have hlaw : p.lawfulNanos f k = p.baseDelay.nanos * f ^ k := by
      cases k <;> simp [lawfulNanos, hceiling]
    rw [List.getElem?_eq_getElem hk, Option.map_some, Option.some.injEq, hlaw] at hlast
    rw [List.take_succ_eq_append_getElem hk, List.map_append, List.sum_append,
      ih (Nat.le_of_succ_le hk) fun i hi => h i (Nat.lt_succ_of_lt hi), Finset.sum_range_succ, Nat.mul_add]
    simp [hlast]

/-- **Delays that grow by a whole number.** Under an enabled policy whose factor is a whole number `f`, at
least one, a run takes a pause after each attempt but the last; so it takes at least `n` of them if the first
`n` results do not end the attempts and more are permitted. The first pause is the base delay. Each later one
is the base delay times a power of `f`, or the ceiling if that is less, provided that the products are exact.
Without a ceiling the first `k` pauses together are the base delay times the sum of the first `k` powers. -/
theorem pauses_geometric (p : RetryPolicy) (henabled : p.enabled = true) {f : Nat} (hf : 1 ≤ f)
    (hfactor : p.factor = .ofNat f) (results : Nat → Attempted) (m : Machine (List Nat))
    (hm : m.repo = []) :
    ∃ waits : List Duration, (p.run (answering results) m).2.pauses = m.pauses ++ waits ∧
      waits.length + 1 = (p.run (answering results) m).1.attempts ∧
      (∀ n, (∀ i, 1 ≤ i → i ≤ n → ¬ Ends p (results i)) → n < p.maxAttempts.count →
        n ≤ waits.length) ∧
      (∀ k < waits.length, p.StaysExact f k →
        (waits[k]?).map Duration.nanos = some (p.lawfulNanos f k)) ∧
      (p.maxDelay = none → ∀ k ≤ waits.length, p.StaysExact f (k - 1) →
        ((waits.take k).map Duration.nanos).sum = p.baseDelay.nanos * ∑ i ∈ Finset.range k, f ^ i) := by
  obtain ⟨n, hn⟩ := run_endsAt results henabled hm
  have hfirst := hn.first_le
  have hlaw : ∀ k < n - 1, p.StaysExact f k →
      ((List.iterate p.nextDelay p.baseDelay (n - 1))[k]?).map Duration.nanos =
        some (p.lawfulNanos f k) := by
    intro k hk hexact
    rw [List.getElem?_iterate _ _ _ _ hk, Option.map_some, iterate_nextDelay hfactor hf hexact]
  refine ⟨_, run_pauses p (restless_answering results) m, ?_⟩
  rw [hn.attempts]
  simp only [List.length_iterate]
  refine ⟨by omega, fun k hgoes hpermitted => ?_, hlaw, fun hceiling k hk hexact => ?_⟩
  · by_contra hshort
    rcases hn.ends with hends | hlast
    · exact hgoes n hfirst (by omega) hends
    · omega
  · refine sum_take_of_lawful hceiling (by simpa using hk) fun i hi => hlaw i (by omega) ?_
    -- The greatest product is the last one.
    obtain ⟨gap, hgap⟩ : ∃ gap, k - 1 = i + gap := ⟨k - 1 - i, by omega⟩
    rw [hgap] at hexact
    clear hgap
    induction gap with
    | zero => exact hexact
    | succ gap ih => exact ih (hexact.pred hf)

/-- Three failures under a policy that doubles the delay and holds it to three seconds. -/
theorem pauses_geometric_of_three_failures :
    let p := (RetryPolicy.imageRegistry.withMaxDelay (.ofSeconds 3)).withMaxAttempts 4
    p.enabled = true ∧ 1 ≤ 2 ∧ p.factor = .ofNat 2 ∧ idleMachine.repo = [] ∧ p.StaysExact 2 2 ∧
      ∃ waits : List Duration,
        (p.run (answering fun _ => .ok ⟨"", "", 1⟩) idleMachine).2.pauses = waits ∧
        (waits[2]?).map Duration.nanos = some 3000000000 := by
  intro p
  have hexact : p.StaysExact 2 2 := by
    show _ ∧ _
    decide
  have hfactor : p.factor = .ofNat 2 := rfl
  have hlaw : p.lawfulNanos 2 2 = 3000000000 := by decide
  have hgoes : ¬ Ends p (.ok ⟨"", "", 1⟩) := by
    simp [Ends, Succeeded, exitCodeOf, p, RetryPolicy.imageRegistry, RetryPolicy.default,
      withMaxDelay, withMaxAttempts]
  obtain ⟨waits, hpauses, -, hlength, hwaits, -⟩ :=
    pauses_geometric p rfl (by decide : 1 ≤ 2) hfactor (fun _ => .ok ⟨"", "", 1⟩) idleMachine rfl
  have hthree : 3 ≤ waits.length := hlength 3 (fun _ _ _ => hgoes) (by decide)
  exact ⟨rfl, by decide, hfactor, rfl, hexact, waits, hpauses,
    (hwaits 2 hthree hexact).trans (congrArg some hlaw)⟩

end RetryPolicy

end Checkout
