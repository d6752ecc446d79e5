import Checkout.Url.Percent
import Mathlib.Data.List.Basic

/-!
# Encoding and decoding

`decode` leaves a text as it is just if it holds no triple. `encode` leaves a text as it is if it holds
nothing that is encoded; what it writes is such a text, so to encode twice is to encode once. And what is
encoded is decoded to what the text itself is decoded to.

Results:
* `decode_eq_iff`: which texts are decoded to themselves;
* `encode_encode`, `encode_eq_self`: encoding once and twice;
* `decode_encode`: encoding does not change what a text is decoded to.
-/

namespace Checkout.Percent

open Number

/-! ## Texts without triples -/

/-- The text holds a percent sign with two digits. -/
def HoldsTriple (cs : List Char) : Prop :=
  ∃ front a b back, cs = front ++ '%' :: a :: b :: back ∧ (digit? a).isSome = true ∧
    (digit? b).isSome = true

/-- The bytes of a text. -/
def bytes (cs : List Char) : List UInt8 := cs.flatMap String.utf8EncodeChar

theorem holdsTriple_cons {c : Char} {cs : List Char} :
    HoldsTriple (c :: cs) ↔
      (c = '%' ∧ ∃ a b back, cs = a :: b :: back ∧ (digit? a).isSome = true ∧
        (digit? b).isSome = true) ∨ HoldsTriple cs := by
  constructor
  · rintro ⟨front, a, b, back, h, ha, hb⟩
    cases front with
    | nil =>
      simp only [List.nil_append, List.cons.injEq] at h
      exact Or.inl ⟨h.1, a, b, back, h.2, ha, hb⟩
    | cons d front =>
      simp only [List.cons_append, List.cons.injEq] at h
      exact Or.inr ⟨front, a, b, back, h.2, ha, hb⟩
  · rintro (⟨rfl, a, b, back, rfl, ha, hb⟩ | ⟨front, a, b, back, rfl, ha, hb⟩)
    · exact ⟨[], a, b, back, rfl, ha, hb⟩
    · exact ⟨c :: front, a, b, back, rfl, ha, hb⟩

theorem bytes_cons (c : Char) (cs : List Char) :
    bytes (c :: cs) = String.utf8EncodeChar c ++ bytes cs := List.flatMap_cons

/-- A character takes at least one byte. -/
theorem length_bytes_cons (c : Char) (cs : List Char) :
    (bytes cs).length < (bytes (c :: cs)).length := by
  have := c.utf8Size_pos
  rw [bytes_cons, List.length_append, String.length_utf8EncodeChar]
  omega

/-- What decoding does to a text. -/
def Shrinks (cs : List Char) : Prop :=
  (¬ HoldsTriple cs → decode cs = bytes cs) ∧ (decode cs).length ≤ (bytes cs).length ∧
    (HoldsTriple cs → (decode cs).length < (bytes cs).length)

/-- A character that begins no triple stays as it is. -/
theorem Shrinks.cons {c : Char} {cs : List Char} (h : Shrinks cs)
    (hdecode : decode (c :: cs) = String.utf8EncodeChar c ++ decode cs)
    (htriple : HoldsTriple (c :: cs) → HoldsTriple cs) : Shrinks (c :: cs) := by
  obtain ⟨heq, hle, hlt⟩ := h
  unfold Shrinks
  rw [hdecode, bytes_cons, List.length_append, List.length_append]
  refine ⟨fun hnot => ?_, by omega, fun hholds => ?_⟩
  · rw [heq fun hholds => hnot (holdsTriple_cons.mpr (Or.inr hholds))]
  · have := hlt (htriple hholds)
    omega

/-- **Decoding** leaves a text without triples as it is, and makes any other one shorter. -/
theorem shrinks (cs : List Char) : Shrinks cs := by
  induction cs using decode.induct with
  | case1 =>
    refine ⟨fun _ => rfl, Nat.le_refl _, ?_⟩
    rintro ⟨front, a, b, back, h, -, -⟩
    cases front <;> cases h
  | case2 a b rest x y hy hx ih =>
    have hholds : HoldsTriple ('%' :: a :: b :: rest) := ⟨[], a, b, rest, rfl, by simp [hx], by simp [hy]⟩
    have hdecode : decode ('%' :: a :: b :: rest) = UInt8.ofNat (x * 16 + y) :: decode rest := by
      rw [decode, hx, hy]
    have := ih.2.1
    have := length_bytes_cons '%' (a :: b :: rest)
    have := length_bytes_cons a (b :: rest)
    have := length_bytes_cons b rest
    unfold Shrinks
    rw [hdecode, List.length_cons]
    exact ⟨fun hnot => absurd hholds hnot, by omega, fun _ => by omega⟩
  | case3 a b rest h ih =>
    refine ih.cons ?_ fun hholds => ?_
    · rw [decode]
      split
      · rename_i x y hx hy
        exact (h x y hx hy).elim
      · rfl
    · rcases holdsTriple_cons.mp hholds with ⟨-, _, _, _, heq, ha, hb⟩ | hholds
      · cases heq
        obtain ⟨x, hx⟩ := Option.isSome_iff_exists.mp ha
        obtain ⟨y, hy⟩ := Option.isSome_iff_exists.mp hb
        exact (h x y hx hy).elim
      · exact hholds
  | case4 c rest h ih =>
    refine ih.cons ?_ fun hholds => ?_
    · rw [decode]
      exact h
    · rcases holdsTriple_cons.mp hholds with ⟨rfl, a, b, back, rfl, -, -⟩ | hholds
      · exact (h a b back rfl rfl).elim
      · exact hholds

/-- **A text is decoded to itself** just if it holds no triple. -/
theorem decode_eq_iff {cs : List Char} : decode cs = bytes cs ↔ ¬ HoldsTriple cs := by
  constructor
  · intro h hholds
    exact absurd (congrArg List.length h) (Nat.ne_of_lt ((shrinks cs).2.2 hholds))
  · exact (shrinks cs).1

/-! ## Triples that are written -/

/-- A digit as it stands in a triple. -/
def upperDigit (k : Nat) : Char := (Nat.digitChar k).toUpper

/-- The characters that triples are written with. -/
def IsTriple (c : Char) : Prop := c = '%' ∨ ∃ k < 16, c = upperDigit k

theorem digit?_upperDigit {k : Nat} (h : k < 16) : digit? (upperDigit k) = some k :=
  (by decide : ∀ k < 16, digit? (upperDigit k) = some k) k h

theorem byteDigits (b : UInt8) :
    (padded 16 2 b.toNat).map Char.toUpper = [upperDigit (b.toNat / 16), upperDigit (b.toNat % 16)] :=
  (by decide +kernel : ∀ n < 256, (padded 16 2 n).map Char.toUpper =
    [upperDigit (n / 16), upperDigit (n % 16)]) b.toNat b.toNat_lt

theorem encodeChar_eq (c : Char) :
    encodeChar c = (String.utf8EncodeChar c).flatMap fun b =>
      ['%', upperDigit (b.toNat / 16), upperDigit (b.toNat % 16)] := by
  unfold encodeChar
  exact congrArg (List.flatMap · (String.utf8EncodeChar c)) (funext fun b => by rw [byteDigits])

theorem isTriple_of_mem_encodeChar {c d : Char} (h : c ∈ encodeChar d) : IsTriple c := by
  rw [encodeChar_eq] at h
  obtain ⟨b, -, h⟩ := List.mem_flatMap.mp h
  have hb := b.toNat_lt
  rcases List.mem_cons.mp h with rfl | h
  · exact Or.inl rfl
  · simp only [List.mem_cons, List.not_mem_nil, or_false] at h
    rcases h with rfl | rfl
    · exact Or.inr ⟨_, by omega, rfl⟩
    · exact Or.inr ⟨_, by omega, rfl⟩

/-! ## Texts that are encoded -/

/-- Triples hold nothing that is encoded. -/
def SparesTriples (isEncoded : Char → Bool) : Prop :=
  isEncoded '%' = false ∧ ∀ c, (digit? c).isSome = true → isEncoded c = false

theorem SparesTriples.of_isTriple {isEncoded : Char → Bool} (h : SparesTriples isEncoded) {c : Char}
    (hc : IsTriple c) : isEncoded c = false := by
  rcases hc with rfl | ⟨k, hk, rfl⟩
  · exact h.1
  · exact h.2 _ (by rw [digit?_upperDigit hk]; rfl)

/-- ASCII can be looked through. -/
theorem forall_ascii {p : Char → Prop} (h : ∀ n < 128, p (Char.ofNat n)) {c : Char} (hc : c.toNat < 128) :
    p c := by
  have hvalue := h c.toNat hc
  rwa [Char.ofNat_toNat] at hvalue

/-- A list of characters can be looked through. -/
theorem forall_mem_of_all {p : Char → Prop} [DecidablePred p] {l : List Char}
    (h : l.all (fun c => decide (p c)) = true) : ∀ c ∈ l, p c :=
  fun c hc => of_decide_eq_true (List.all_eq_true.mp h c hc)

theorem lt_of_isSome_digit? {c : Char} (h : (digit? c).isSome = true) : c.toNat < 128 := by
  have hle : c ≤ '9' ∨ c ≤ 'f' ∨ c ≤ 'F' := by
    by_contra hlarge
    simp only [not_or] at hlarge
    simp [digit?, hlarge] at h
  change c.toNat ≤ 57 ∨ c.toNat ≤ 102 ∨ c.toNat ≤ 70 at hle
  omega

theorem SparesTriples.of_ascii {isEncoded : Char → Bool} (hsign : isEncoded '%' = false)
    (hdigit : ∀ n < 128, (digit? (Char.ofNat n)).isSome = true → isEncoded (Char.ofNat n) = false) :
    SparesTriples isEncoded :=
  ⟨hsign, fun _ hc => forall_ascii (p := fun c => (digit? c).isSome = true → isEncoded c = false) hdigit
    (lt_of_isSome_digit? hc) hc⟩

theorem sparesTriples_isControl : SparesTriples isControl := .of_ascii (by decide) (by decide)

theorem sparesTriples_notInFragment : SparesTriples notInFragment := .of_ascii (by decide) (by decide)

theorem sparesTriples_notInQuery (special : Bool) : SparesTriples (notInQuery special) := by
  cases special <;> exact .of_ascii (by decide) (by decide)

theorem sparesTriples_notInPath : SparesTriples notInPath := .of_ascii (by decide) (by decide)

theorem sparesTriples_notInUserinfo : SparesTriples notInUserinfo := .of_ascii (by decide) (by decide)

variable {isEncoded : Char → Bool} {cs : List Char}

theorem encode_cons (c : Char) (cs : List Char) :
    encode isEncoded (c :: cs) = (if isEncoded c then encodeChar c else [c]) ++ encode isEncoded cs :=
  List.flatMap_cons

theorem encode_eq_self (h : ∀ c ∈ cs, isEncoded c = false) : encode isEncoded cs = cs := by
  induction cs with
  | nil => rfl
  | cons c cs ih =>
    rw [encode_cons, h c List.mem_cons_self, ih fun x hx => h x (List.mem_cons_of_mem _ hx)]
    rfl

theorem encode_ne_nil (h : cs ≠ []) : encode isEncoded cs ≠ [] := by
  obtain ⟨c, rest, rfl⟩ := List.exists_cons_of_ne_nil h
  rw [encode_cons]
  split
  · rw [encodeChar_eq]
    obtain ⟨byte, bytes, hbytes⟩ := List.exists_cons_of_ne_nil (String.utf8EncodeChar_ne_nil (c := c))
    simp [hbytes]
  · exact List.cons_ne_nil _ _

/-- A character that is written stood there and is not encoded, or belongs to a triple. -/
theorem mem_encode {c : Char} (h : c ∈ encode isEncoded cs) :
    (c ∈ cs ∧ isEncoded c = false) ∨ IsTriple c := by
  obtain ⟨d, hd, hc⟩ := List.mem_flatMap.mp h
  by_cases he : isEncoded d = true
  · rw [if_pos he] at hc
    exact Or.inr (isTriple_of_mem_encodeChar hc)
  · rw [if_neg he, List.mem_singleton] at hc
    exact Or.inl ⟨hc ▸ hd, hc ▸ Bool.eq_false_iff.mpr he⟩

/-- **What is written holds nothing that is encoded.** -/
theorem not_isEncoded_of_mem_encode (hspares : SparesTriples isEncoded) {c : Char}
    (h : c ∈ encode isEncoded cs) : isEncoded c = false := by
  rcases mem_encode h with ⟨-, h⟩ | h
  · exact h
  · exact hspares.of_isTriple h

/-- **To encode twice is to encode once.** -/
theorem encode_encode (hspares : SparesTriples isEncoded) (cs : List Char) :
    encode isEncoded (encode isEncoded cs) = encode isEncoded cs :=
  encode_eq_self fun _ h => not_isEncoded_of_mem_encode hspares h

/-! ## What is decoded -/

theorem decode_triple {a b : Char} {x y : Nat} (ha : digit? a = some x) (hb : digit? b = some y)
    (rest : List Char) : decode ('%' :: a :: b :: rest) = UInt8.ofNat (x * 16 + y) :: decode rest := by
  rw [decode, ha, hb]

/-- A text begins with two digits. -/
def BeginsWithDigits (cs : List Char) : Prop :=
  ∃ a b rest, cs = a :: b :: rest ∧ (digit? a).isSome = true ∧ (digit? b).isSome = true

/-- A percent sign without two digits stands for itself. -/
theorem decode_percent (h : ¬ BeginsWithDigits cs) : decode ('%' :: cs) = 37 :: decode cs := by
  match cs, h with
  | [], _ => rfl
  | [_], _ => rfl
  | a :: b :: rest, h =>
    rw [decode]
    split
    · rename_i x y ha hb
      exact absurd ⟨a, b, rest, rfl, by rw [ha]; rfl, by rw [hb]; rfl⟩ h
    · rfl

theorem decode_cons {c : Char} (h : c ≠ '%') (cs : List Char) :
    decode (c :: cs) = String.utf8EncodeChar c ++ decode cs := by
  rw [decode]
  rintro a b rest rfl
  exact absurd rfl h

/-- Every character is decoded to a byte at least. -/
theorem eq_nil_of_decode (h : decode cs = []) : cs = [] := by
  cases cs with
  | nil => rfl
  | cons c rest =>
    by_cases hc : c = '%'
    · subst hc
      by_cases hdigits : BeginsWithDigits rest
      · obtain ⟨a, b, back, rfl, ha, hb⟩ := hdigits
        obtain ⟨x, hx⟩ := Option.isSome_iff_exists.mp ha
        obtain ⟨y, hy⟩ := Option.isSome_iff_exists.mp hb
        rw [decode_triple hx hy] at h
        cases h
      · rw [decode_percent hdigits] at h
        cases h
    · rw [decode_cons hc] at h
      exact absurd (List.append_eq_nil_iff.mp h).1 String.utf8EncodeChar_ne_nil

/-- **What is encoded is decoded** to the bytes of the character. -/
theorem decode_encodeChar (c : Char) (rest : List Char) :
    decode (encodeChar c ++ rest) = String.utf8EncodeChar c ++ decode rest := by
  rw [encodeChar_eq]
  induction String.utf8EncodeChar c with
  | nil => rfl
  | cons b bytes ih =>
    have hb := b.toNat_lt
    rw [List.flatMap_cons]
    simp only [List.cons_append, List.nil_append]
    rw [decode_triple (digit?_upperDigit (by omega)) (digit?_upperDigit (by omega)), ih]
    congr 1
    rw [Nat.div_add_mod']
    exact UInt8.ofNat_toNat

/-- A text that is encoded begins with two digits only if it did before. -/
theorem BeginsWithDigits.of_encode (h : BeginsWithDigits (encode isEncoded cs)) : BeginsWithDigits cs := by
  obtain ⟨a, b, rest, heq, ha, hb⟩ := h
  have hhead : ∀ {x : Char} {xs ys : List Char} {d : Char}, (digit? d).isSome = true →
      encode isEncoded (x :: xs) = d :: ys → x = d ∧ encode isEncoded xs = ys := by
    intro x xs ys d hd h
    rw [encode_cons] at h
    by_cases hx : isEncoded x = true
    · -- The sign of a triple is no digit.
      rw [if_pos hx, encodeChar_eq] at h
      obtain ⟨byte, bytes, hbytes⟩ := List.exists_cons_of_ne_nil (String.utf8EncodeChar_ne_nil (c := x))
      rw [hbytes, List.flatMap_cons] at h
      cases h
      cases hd
    · rw [if_neg hx] at h
      cases h
      exact ⟨rfl, rfl⟩
  match cs, heq with
  | [c], heq =>
    obtain ⟨-, hrest⟩ := hhead ha heq
    cases hrest
  | c :: d :: cs, heq =>
    obtain ⟨rfl, hrest⟩ := hhead ha heq
    obtain ⟨rfl, -⟩ := hhead hb hrest
    exact ⟨c, d, cs, rfl, ha, hb⟩

/-- **Encoding does not change what a text is decoded to.** -/
theorem decode_encode (hspares : SparesTriples isEncoded) (cs : List Char) :
    decode (encode isEncoded cs) = decode cs := by
  induction cs using decode.induct with
  | case1 => rfl
  | case2 a b rest x y hy hx ih =>
    have ha := hspares.2 a (by rw [hx]; rfl)
    have hb := hspares.2 b (by rw [hy]; rfl)
    rw [encode_cons, encode_cons, encode_cons, hspares.1, ha, hb]
    change decode ('%' :: a :: b :: encode isEncoded rest) = _
    rw [decode_triple hx hy, decode_triple hx hy, ih]
  | case3 a b rest h ih =>
    have hnot : ¬ BeginsWithDigits (a :: b :: rest) := by
      rintro ⟨_, _, _, heq, ha, hb⟩
      cases heq
      obtain ⟨x, hx⟩ := Option.isSome_iff_exists.mp ha
      obtain ⟨y, hy⟩ := Option.isSome_iff_exists.mp hb
      exact h x y hx hy
    rw [encode_cons, hspares.1]
    change decode ('%' :: encode isEncoded (a :: b :: rest)) = _
    rw [decode_percent hnot, decode_percent fun hdigits => hnot hdigits.of_encode, ih]
  | case4 c rest h ih =>
    rw [encode_cons]
    by_cases hc : c = '%'
    · subst hc
      have hnot : ¬ BeginsWithDigits rest := by
        rintro ⟨a, b, more, rfl, -, -⟩
        exact h a b more rfl rfl
      rw [hspares.1]
      change decode ('%' :: encode isEncoded rest) = _
      rw [decode_percent hnot, decode_percent fun hdigits => hnot hdigits.of_encode, ih]
    · rw [decode_cons hc, ← ih]
      by_cases he : isEncoded c = true
      · rw [if_pos he, decode_encodeChar]
      · rw [if_neg he]
        exact decode_cons hc _

end Checkout.Percent
