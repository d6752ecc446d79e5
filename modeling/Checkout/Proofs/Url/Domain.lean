import Checkout.Proofs.Text.Pieces
import Checkout.Proofs.Url.Percent
import Checkout.Proofs.Url.Punycode
import Checkout.Url.Domain

/-!
# Domain names are read back

The ASCII form of a domain name is made of labels, each in lower case and free of what no domain name
contains. Read again it falls into the same labels: the points between them are the only ones. A label in
ASCII is kept, and what stands in Punycode is read back. The rules of the labels need not be looked at: a
name that is refused has no other ASCII form.

Results:
* `exists_of_toAscii`: the ASCII form of a domain name is made of labels that are kept;
* `eq_of_toAscii_joined`: such labels are read back;
* `eq_of_ofEncoded`: the ASCII form of a domain name has no other one.
-/

namespace Checkout

open Text

/-- A text that is written as bytes is read back. -/
theorem Text.decode?_bytes (cs : List Char) : decode? (Percent.bytes cs) = some (String.ofList cs) := by
  have hbytes : (⟨(Percent.bytes cs).toArray⟩ : ByteArray) = (String.ofList cs).toByteArray := by
    apply ByteArray.ext
    simp [Percent.bytes, List.utf8Encode]
  unfold decode? String.fromUTF8?
  rw [hbytes, dif_pos (String.ofList cs).isValidUTF8]
  rfl

theorem Percent.decode_eq_bytes {cs : List Char} (h : '%' ∉ cs) : decode cs = bytes cs := by
  refine decode_eq_iff.mpr ?_
  rintro ⟨front, a, b, back, rfl, -, -⟩
  exact h (by simp)

namespace Domain

variable {label : List Nat} {labels : List (List Nat)} {codes : List Nat} {name text text' : List Char}

/-! ## Lists and their parts -/

/-- A list of results is there just if each result is. -/
theorem mapM_eq_some_iff {α β : Type} {f : α → Option β} {as : List α} {bs : List β} :
    as.mapM f = some bs ↔ as.map f = bs.map some := by
  induction as generalizing bs with
  | nil => cases bs <;> simp
  | cons a as ih =>
    rw [List.mapM_cons, List.map_cons]
    constructor
    · intro h
      obtain ⟨b, hb, h⟩ := Option.bind_eq_some_iff.mp h
      obtain ⟨rest, hrest, h⟩ := Option.bind_eq_some_iff.mp h
      cases h
      rw [hb, ih.mp hrest, List.map_cons]
    · intro h
      cases bs with
      | nil => cases h
      | cons b bs =>
        obtain ⟨hb, hrest⟩ := List.cons.inj h
        rw [hb, ih.mpr hrest]
        rfl

theorem mapM_map {α β : Type} {f : α → Option β} {g : β → α} {bs : List β}
    (h : ∀ b ∈ bs, f (g b) = some b) : (bs.map g).mapM f = some bs := by
  rw [mapM_eq_some_iff, List.map_map]
  exact List.map_congr_left h

theorem exists_of_mapM {α β : Type} {f : α → Option β} {as : List α} {bs : List β}
    (h : as.mapM f = some bs) {b : β} (hb : b ∈ bs) : ∃ a ∈ as, f a = some b := by
  refine List.mem_map.mp ?_
  rw [mapM_eq_some_iff.mp h]
  exact List.mem_map_of_mem hb

theorem length_of_mapM {α β : Type} {f : α → Option β} {as : List α} {bs : List β}
    (h : as.mapM f = some bs) : bs.length = as.length := by
  simpa using (congrArg List.length (mapM_eq_some_iff.mp h)).symm

/-- Where each result can only be the one that is wanted, so can the list of all. -/
theorem eq_of_mapM {α β : Type} {f : α → Option β} {g : β → α} {bs bs' : List β}
    (h : (bs.map g).mapM f = some bs') (hback : ∀ b ∈ bs, ∀ b', f (g b) = some b' → b' = b) : bs' = bs := by
  have hmap := mapM_eq_some_iff.mp h
  have hthere : ∀ b ∈ bs, f (g b) = some b := by
    intro b hb
    have hmem : f (g b) ∈ bs'.map some := by
      rw [← hmap]
      exact List.mem_map_of_mem (List.mem_map_of_mem hb)
    obtain ⟨b', -, hb'⟩ := List.mem_map.mp hmem
    rw [← hb', hback b hb b' hb'.symm]
  exact Option.some.inj (h.symm.trans (mapM_map hthere))

theorem map_intercalate {α β : Type} (f : α → β) (sep : List α) (parts : List (List α)) :
    (sep.intercalate parts).map f = (sep.map f).intercalate (parts.map (List.map f)) := by
  induction parts with
  | nil => rfl
  | cons part parts ih =>
    cases parts with
    | nil => simp
    | cons next more => simp_all [List.intercalate_cons_cons]

/-! ## What labels are made of -/

/-- A code point of a domain name in its ASCII form, other than the points. -/
structure IsPlain (n : Nat) : Prop where
  ascii : n < 128
  allowed : isForbidden n = false
  notPoint : n ≠ 0x2E
  lower : ¬ (0x41 ≤ n ∧ n ≤ 0x5A)

instance (n : Nat) : Decidable (IsPlain n) :=
  decidable_of_iff (n < 128 ∧ isForbidden n = false ∧ n ≠ 0x2E ∧ ¬ (0x41 ≤ n ∧ n ≤ 0x5A))
    ⟨fun ⟨h₁, h₂, h₃, h₄⟩ => ⟨h₁, h₂, h₃, h₄⟩, fun ⟨h₁, h₂, h₃, h₄⟩ => ⟨h₁, h₂, h₃, h₄⟩⟩

/-- What stands behind `xn--` is Punycode. -/
theorem decodeLabel_coded (rest : List Nat) :
    decodeLabel (0x78 :: 0x6E :: 0x2D :: 0x2D :: rest) =
      if rest.any (0x80 ≤ ·) then none
      else
        (Punycode.decode? (rest.map Char.ofNat)).bind fun decoded =>
          if decoded.all (· < 0x80) then none else some decoded :=
  rfl

/-- A label that is kept when it is read again. -/
structure Kept (label : List Nat) : Prop where
  plain : ∀ n ∈ label, n < 128 → IsPlain n
  ascii : label.all (· < 0x80) = true → decodeLabel label = some label

theorem isPlain_of_isDigit {c : Char} (h : Punycode.IsDigit c) : IsPlain c.toNat := by
  obtain ⟨d, hd, rfl⟩ := h
  exact (by decide : ∀ d < 36, IsPlain (Punycode.digitChar d).toNat) d hd

/-- A text in ASCII is its own ASCII form. -/
theorem encodeLabel_map_toNat {cs : List Char} (h : ∀ c ∈ cs, c.toNat < 128) :
    encodeLabel (cs.map Char.toNat) = cs := by
  have hall : (cs.map Char.toNat).all (· < 0x80) = true := by
    rw [List.all_map, List.all_eq_true]
    exact fun c hc => decide_eq_true (h c hc)
  unfold encodeLabel
  rw [if_pos hall, List.map_map]
  exact (List.map_congr_left fun c _ => Char.ofNat_toNat c).trans (List.map_id' _)

/-- **The ASCII form of a label** is made of plain characters. -/
theorem Kept.isPlain_of_mem_encodeLabel (h : Kept label) {c : Char} (hc : c ∈ encodeLabel label) :
    IsPlain c.toNat := by
  have hcode : ∀ n ∈ label, n < 128 → IsPlain (Char.ofNat n).toNat := fun n hn hsmall => by
    rw [Punycode.toNat_ofNat_of_lt hsmall]
    exact h.plain n hn hsmall
  unfold encodeLabel at hc
  split at hc
  · rename_i hall
    obtain ⟨n, hn, rfl⟩ := List.mem_map.mp hc
    exact hcode n hn (by simpa using List.all_eq_true.mp hall n hn)
  · rcases List.mem_append.mp hc with hc | hc
    · exact Percent.forall_mem_of_all (p := fun c => IsPlain c.toNat) (by decide) c hc
    obtain ⟨digits, hencode, hdigits⟩ := Punycode.exists_encode label
    rw [hencode] at hc
    unfold Punycode.basicText at hc
    rcases List.mem_append.mp hc with hc | hc
    · rcases List.mem_append.mp hc with hc | hc
      · obtain ⟨n, hn, rfl⟩ := List.mem_map.mp hc
        obtain ⟨hmem, hsmall⟩ := List.mem_filter.mp hn
        exact hcode n hmem (by simpa using hsmall)
      · split at hc
        · cases hc
        · rw [List.mem_singleton] at hc
          subst hc
          decide
    · exact isPlain_of_isDigit (hdigits c hc)

/-- **A label is read back** from its ASCII form. -/
theorem Kept.eq_of_decodeLabel (h : Kept label) {label' : List Nat}
    (hread : decodeLabel ((encodeLabel label).map Char.toNat) = some label') : label' = label := by
  unfold encodeLabel at hread
  split at hread
  · rename_i hall
    have hback : (label.map Char.ofNat).map Char.toNat = label := by
      rw [List.map_map]
      refine (List.map_congr_left fun n hn => Punycode.toNat_ofNat_of_lt ?_).trans (List.map_id' _)
      simpa using List.all_eq_true.mp hall n hn
    rw [hback, h.ascii hall] at hread
    exact (Option.some.inj hread).symm
  · rw [List.map_append] at hread
    change decodeLabel (0x78 :: 0x6E :: 0x2D :: 0x2D :: (Punycode.encode label).map Char.toNat) = _ at hread
    rw [decodeLabel_coded] at hread
    split at hread
    · cases hread
    have hback : ((Punycode.encode label).map Char.toNat).map Char.ofNat = Punycode.encode label := by
      rw [List.map_map]
      exact (List.map_congr_left fun c _ => Char.ofNat_toNat c).trans (List.map_id' _)
    rw [hback] at hread
    obtain ⟨decoded, hdecoded, hread⟩ := Option.bind_eq_some_iff.mp hread
    rw [Punycode.eq_of_decode?_encode hdecoded] at hread
    split at hread
    · cases hread
    · exact (Option.some.inj hread).symm

/-! ## Whole names -/

/-- Lower case in ASCII is normal. -/
theorem normalize_of_ascii (h : ∀ n ∈ codes, n < 128 ∧ ¬ (0x41 ≤ n ∧ n ≤ 0x5A)) :
    normalize codes = some codes := by
  have hmap : codes.mapM mapCode = some (codes.map fun n => [n]) := by
    induction codes with
    | nil => rfl
    | cons n codes ih =>
      obtain ⟨hsmall, hlower⟩ := h n List.mem_cons_self
      rw [List.mapM_cons, ih fun x hx => h x (List.mem_cons_of_mem _ hx)]
      unfold mapCode
      rw [if_pos hsmall, if_neg hlower]
      rfl
  have hflat : (codes.map fun n => [n]).flatten = codes := by rw [← List.flatMap_def, List.flatMap_singleton']
  have hall : codes.all (· < 0x80) = true := by
    rw [List.all_eq_true]
    exact fun n hn => decide_eq_true (h n hn).1
  unfold normalize
  rw [hmap]
  simp only [Option.bind_eq_bind, Option.bind_some, hflat, hall, if_true]

/-- Labels with points between them. -/
def joined (labels : List (List Nat)) : List Char := ['.'].intercalate (labels.map encodeLabel)

/-- A character of the labels is plain, or a point. -/
theorem isPlain_of_mem_joined (hkept : ∀ label ∈ labels, Kept label) {c : Char} (hc : c ∈ joined labels) :
    c = '.' ∨ IsPlain c.toNat := by
  rcases mem_of_mem_intercalate hc with hc | ⟨part, hpart, hc⟩
  · exact Or.inl (List.mem_singleton.mp hc)
  · obtain ⟨label, hlabel, rfl⟩ := List.mem_map.mp hpart
    exact Or.inr ((hkept label hlabel).isPlain_of_mem_encodeLabel hc)

/-- **Labels that are kept are read back.** -/
theorem eq_of_toAscii_joined (hne : labels ≠ []) (hkept : ∀ label ∈ labels, Kept label)
    (h : toAscii (joined labels) = some text) : text = joined labels := by
  have hcodes : (joined labels).map Char.toNat =
      [0x2E].intercalate (labels.map fun label => (encodeLabel label).map Char.toNat) := by
    unfold joined
    rw [map_intercalate, List.map_map]
    rfl
  have hlower : ∀ n ∈ (joined labels).map Char.toNat, n < 128 ∧ ¬ (0x41 ≤ n ∧ n ≤ 0x5A) := by
    intro n hn
    obtain ⟨c, hc, rfl⟩ := List.mem_map.mp hn
    rcases isPlain_of_mem_joined hkept hc with rfl | hplain
    · decide
    · exact ⟨hplain.ascii, hplain.lower⟩
  have hpoint : ∀ part ∈ labels.map fun label => (encodeLabel label).map Char.toNat, 0x2E ∉ part := by
    intro part hpart hmem
    obtain ⟨label, hlabel, rfl⟩ := List.mem_map.mp hpart
    obtain ⟨c, hc, hvalue⟩ := List.mem_map.mp hmem
    exact ((hkept label hlabel).isPlain_of_mem_encodeLabel hc).notPoint hvalue
  unfold toAscii at h
  rw [normalize_of_ascii hlower, Option.bind_eq_bind, Option.bind_some] at h
  split at h
  · cases h
  rw [hcodes, List.splitOn_intercalate _ hpoint (by simpa using hne)] at h
  obtain ⟨labels', hlabels', h⟩ := Option.bind_eq_some_iff.mp h
  rw [eq_of_mapM hlabels' fun label hlabel _ => (hkept label hlabel).eq_of_decodeLabel] at h
  dsimp only at h
  split at h
  · exact (Option.some.inj h).symm
  · cases h

/-! ## What the reader makes of a name -/

/-- A label that is decoded to ASCII stood there. -/
theorem decodeLabel_eq_self {part : List Nat} (h : decodeLabel part = some label)
    (hall : label.all (· < 0x80) = true) : part = label := by
  unfold decodeLabel at h
  split at h
  · split at h
    · cases h
    obtain ⟨decoded, -, h⟩ := Option.bind_eq_some_iff.mp h
    split at h
    · cases h
    · rename_i hnot
      cases h
      exact absurd hall hnot
  · exact Option.some.inj h

/-- Decoding a label adds only code points that are not ASCII. -/
theorem mem_of_decodeLabel {part : List Nat} (h : decodeLabel part = some label) {n : Nat}
    (hn : n ∈ label) (hsmall : n < 128) : n ∈ part := by
  unfold decodeLabel at h
  split at h
  · rename_i rest
    split at h
    · cases h
    rename_i hrest
    obtain ⟨decoded, hdecoded, h⟩ := Option.bind_eq_some_iff.mp h
    split at h
    · cases h
    cases h
    rcases Punycode.decode?_codes hdecoded n hn with hlarge | hmem
    · omega
    · obtain ⟨c, hc, rfl⟩ := List.mem_map.mp hmem
      obtain ⟨m, hm, rfl⟩ := List.mem_map.mp hc
      have hmsmall : m < 128 := by
        by_contra hlarge
        exact hrest (List.any_eq_true.mpr ⟨m, hm, decide_eq_true (by omega)⟩)
      rw [Punycode.toNat_ofNat_of_lt hmsmall]
      simp [hm]
  · cases h
    exact hn

/-- ASCII that stands unchanged is lower case. -/
theorem lower_of_isStable {n : Nat} (h : isStable n = true) (hsmall : n < 128) :
    ¬ (0x41 ≤ n ∧ n ≤ 0x5A) := by
  intro hupper
  have hmap : mapCode n = some [n] := by simpa [isStable] using h
  unfold mapCode at hmap
  rw [if_pos hsmall, if_pos hupper] at hmap
  simp at hmap

/-- **The ASCII form of a domain name** is made of labels that are kept. -/
theorem exists_of_toAscii (h : toAscii name = some text) :
    ∃ labels, labels ≠ [] ∧ (∀ label ∈ labels, Kept label) ∧ text = joined labels := by
  unfold toAscii at h
  obtain ⟨codes, -, h⟩ := Option.bind_eq_some_iff.mp h
  split at h
  · cases h
  rename_i hallowed
  obtain ⟨labels, hlabels, h⟩ := Option.bind_eq_some_iff.mp h
  dsimp only at h
  split at h
  · rename_i hrules
    have hvalid := (Bool.and_eq_true_iff.mp hrules).1
    refine ⟨labels, ?_, fun label hlabel => ?_, (Option.some.inj h).symm⟩
    · rintro rfl
      exact List.splitOn_ne_nil 0x2E codes (List.length_eq_zero_iff.mp (length_of_mapM hlabels).symm)
    obtain ⟨part, hpart, hdecoded⟩ := exists_of_mapM hlabels hlabel
    have hrule := List.all_eq_true.mp hvalid label hlabel
    refine ⟨fun n hn hsmall => ?_, fun hall => ?_⟩
    · have hmem := mem_of_decodeLabel hdecoded hn hsmall
      refine ⟨hsmall, ?_, ?_, lower_of_isStable ?_ hsmall⟩
      · by_contra hforbidden
        exact hallowed (List.any_eq_true.mpr
          ⟨n, mem_of_mem_splitOn hpart hmem, Bool.eq_true_of_not_eq_false hforbidden⟩)
      · rintro rfl
        exact not_mem_of_mem_splitOn hpart hmem
      · by_cases hall : label.all (· < 0x80) = true
        · rw [if_pos hall] at hrule
          exact List.all_eq_true.mp hrule n hn
        · rw [if_neg hall] at hrule
          unfold isValidLabel at hrule
          simp only [Bool.and_eq_true] at hrule
          exact List.all_eq_true.mp hrule.1.1.1 n hn
    · rwa [decodeLabel_eq_self hdecoded hall] at hdecoded
  · cases h

/-- What the ASCII form of a domain name holds. -/
theorem isPlain_of_mem_ofEncoded {cs : List Char} (h : ofEncoded cs = .ok name) {c : Char}
    (hc : c ∈ name) : c = '.' ∨ IsPlain c.toNat := by
  unfold ofEncoded at h
  split at h
  · rename_i found hfound
    cases h
    obtain ⟨s, -, hascii⟩ := Option.bind_eq_some_iff.mp hfound
    obtain ⟨labels, -, hkept, rfl⟩ := exists_of_toAscii hascii
    exact isPlain_of_mem_joined hkept hc
  · cases h

theorem ofEncoded_eq_ok {cs : List Char} (hplain : '%' ∉ cs) (h : ofEncoded cs = .ok name) :
    toAscii cs = some name := by
  unfold ofEncoded at h
  rw [Percent.decode_eq_bytes hplain, decode?_bytes, Option.bind_some, String.toList_ofList] at h
  split at h
  · rename_i found hfound
    cases h
    exact hfound
  · cases h

theorem percent_not_mem {cs : List Char} (h : ∀ c ∈ cs, c = '.' ∨ IsPlain c.toNat) : '%' ∉ cs := by
  intro hmem
  rcases h _ hmem with heq | hplain
  · exact absurd heq (by decide)
  · exact absurd hplain.allowed (by decide)

/-- **The ASCII form of a domain name has no other one.** -/
theorem eq_of_ofEncoded {cs name' : List Char} (h : ofEncoded cs = .ok name)
    (hread : ofEncoded name = .ok name') : name' = name := by
  have hagain := ofEncoded_eq_ok (percent_not_mem fun _ => isPlain_of_mem_ofEncoded h) hread
  unfold ofEncoded at h
  split at h
  · rename_i found hfound
    cases h
    obtain ⟨s, -, hascii⟩ := Option.bind_eq_some_iff.mp hfound
    obtain ⟨labels, hne, hkept, rfl⟩ := exists_of_toAscii hascii
    exact eq_of_toAscii_joined hne hkept hagain
  · cases h

end Domain

end Checkout
