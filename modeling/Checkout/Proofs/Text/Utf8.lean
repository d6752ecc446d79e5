import Checkout.Text.Utf8
import Mathlib.Tactic.CasesM
import Mathlib.Tactic.SplitIfs

/-!
# Texts and their bytes

A text is read back from its bytes, and only from them. Bytes that are no text are shown with replacement
characters, but never so that a byte below 0x80 is lost: no sequence of several bytes contains one.

Results:
* `decode?_encode`, `encode_of_decode?`: a text is read back;
* `ofNat_mem_decodeLossy`: a byte below 0x80 is shown as its character.
-/

namespace Checkout.Text

theorem encode_eq (s : String) : encode s = s.toList.flatMap String.utf8EncodeChar := by
  obtain ⟨cs, rfl⟩ : ∃ cs, s = String.ofList cs := ⟨s.toList, String.ofList_toList.symm⟩
  unfold encode
  rw [String.toList_ofList]
  simp [List.utf8Encode]

/-- **A text is read back** from its bytes. -/
theorem decode?_encode (s : String) : decode? (encode s) = some s := by
  have hbytes : (⟨(encode s).toArray⟩ : ByteArray) = s.toByteArray := by
    apply ByteArray.ext
    simp [encode]
  unfold decode? String.fromUTF8?
  rw [hbytes, dif_pos s.isValidUTF8]
  rfl

/-- Bytes that are a text are the bytes of this text. -/
theorem encode_of_decode? {bytes : List UInt8} {s : String} (h : decode? bytes = some s) :
    encode s = bytes := by
  unfold decode? String.fromUTF8? at h
  split at h
  · obtain rfl := Option.some.inj h
    rfl
  · cases h

/-! ## Bytes that are shown -/

/-- In UTF-8 a byte below 0x80 stands for its character only. -/
theorem eq_ofNat_of_mem_utf8EncodeChar {c : Char} {b : UInt8} (hb : b.toNat < 0x80)
    (h : b ∈ String.utf8EncodeChar c) : c = Char.ofNat b.toNat := by
  have hhigh : ∀ {n}, b = UInt8.ofNat n → 0x80 ≤ n → n < 0x100 → False := by
    rintro n rfl hlow hlt
    rw [UInt8.toNat_ofNat_of_lt' hlt] at hb
    omega
  unfold String.utf8EncodeChar at h
  dsimp only at h
  split at h
  · rename_i hascii
    obtain rfl := List.mem_singleton.mp h
    rw [UInt8.toNat_ofNat_of_lt' (show c.val.toNat < 256 by omega)]
    exact (Char.ofNat_toNat c).symm
  all_goals
    exfalso
    repeat' split at h
    all_goals
      simp only [List.mem_cons, List.not_mem_nil, or_false] at h
      casesm* _ ∨ _
    all_goals exact hhigh ‹_› (by omega) (by omega)

/-- A sequence goes on with bytes from 0x80 on. -/
theorem low_of_lead {b : Nat} {p : Pending} (h : lead b = .more p) : 0x80 ≤ p.low := by
  unfold lead at h
  split_ifs at h <;> cases h <;> simp

theorem lead_of_lt {b : Nat} (hb : b < 0x80) : lead b = .char (Char.ofNat b) := by
  unfold lead
  rw [if_pos hb]

/-- In the middle of a sequence or between two, a byte below 0x80 is read by itself. -/
theorem ofNat_mem_decodeLossyFrom {b : UInt8} (hb : b.toNat < 0x80) (bytes : List UInt8) :
    ∀ pending : Option Pending, (∀ p, pending = some p → 0x80 ≤ p.low) → b ∈ bytes →
      Char.ofNat b.toNat ∈ decodeLossyFrom pending bytes := by
  induction bytes with
  | nil =>
    intro _ _ h
    cases h
  | cons a rest ih =>
    intro pending hlow h
    -- Wherever a sequence begins or ends, what follows is read with bounds from 0x80 on.
    have hnone := ih none (by simp)
    have hlead : ∀ p, lead a.toNat = .more p → b ∈ rest →
        Char.ofNat b.toNat ∈ decodeLossyFrom (some p) rest :=
      fun p hp => ih (some p) fun q hq => by
        cases hq
        exact low_of_lead hp
    have hmore : ∀ owed high value, b ∈ rest →
        Char.ofNat b.toNat ∈ decodeLossyFrom (some ⟨owed, 0x80, high, value⟩) rest :=
      fun _ _ _ => ih _ (by simp)
    rcases List.mem_cons.mp h with rfl | hrest
    · have hread := lead_of_lt hb
      cases pending with
      | none => simp [decodeLossyFrom, hread]
      | some p =>
        have hbound := hlow p rfl
        have hbelow : ¬ p.low ≤ b.toNat := by omega
        simp [decodeLossyFrom, hread, hbelow]
    · cases pending with
      | none =>
        unfold decodeLossyFrom
        cases hread : lead a.toNat <;> simp_all
      | some p =>
        unfold decodeLossyFrom
        split_ifs
        · exact List.mem_cons_of_mem _ (hnone hrest)
        · exact hmore _ _ _ hrest
        · cases hread : lead a.toNat <;> simp_all

/-- **A byte below 0x80 is shown as its character**, whatever stands around it. -/
theorem ofNat_mem_decodeLossy {b : UInt8} (hb : b.toNat < 0x80) {bytes : List UInt8} (h : b ∈ bytes) :
    Char.ofNat b.toNat ∈ (decodeLossy bytes).toList := by
  unfold decodeLossy
  cases hread : decode? bytes with
  | none =>
    dsimp only
    rw [String.toList_ofList]
    exact ofNat_mem_decodeLossyFrom hb bytes none (by simp) h
  | some s =>
    rw [← encode_of_decode? hread, encode_eq, List.mem_flatMap] at h
    obtain ⟨c, hc, hbyte⟩ := h
    exact eq_ofNat_of_mem_utf8EncodeChar hb hbyte ▸ hc

end Checkout.Text
