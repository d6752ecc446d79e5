import Checkout.Proofs.Number.Numeral
import Checkout.Proofs.Url.Domain
import Checkout.Url.Host

/-!
# Addresses are read back

An IPv4 address is written in four decimal parts, and as a domain name it stays what it is. An IPv6 address
is written with its longest run of zeros left out, so the text falls into two sides, and between these as
many zeros are missing as were left out.

Results:
* `Ipv4.ofHost_text`, `Ipv6.ofText?_text`: the address that is read is the one that was written;
* `Ipv4.lt_of_ofHost`, `Ipv6.isAddress_of_ofText?`: every address that is read is one of those;
* `Ipv4.eq_of_toAscii_text`: an IPv4 address has no other ASCII form.
-/

namespace Checkout

open Number

/-! ## IPv4 -/

namespace Ipv4

/-- The four parts of an address, first one first. -/
def quads (n : Nat) : List Nat := [n / 0x1000000 % 256, n / 0x10000 % 256, n / 256 % 256, n % 256]

theorem text_eq (n : Nat) : text n = ['.'].intercalate ((quads n).map decimal) := by
  simp [text, quads, List.intercalate_cons_cons]

theorem lt_of_mem_quads {n k : Nat} (h : k ∈ quads n) : k < 256 := by
  simp only [quads, List.mem_cons, List.not_mem_nil, or_false] at h
  rcases h with rfl | rfl | rfl | rfl <;> exact Nat.mod_lt _ (by decide)

/-- A part of an address is a number in decimal. -/
theorem part?_decimal {k : Nat} (h : k < 256) : part? (decimal k) = some k :=
  (by decide +kernel : ∀ k < 256, part? (decimal k) = some k) k h

/-- An address is written with digits and points. -/
theorem mem_text {n : Nat} {c : Char} (h : c ∈ text n) : c = '.' ∨ c.isDigit = true := by
  rw [text_eq] at h
  rcases Text.mem_of_mem_intercalate h with h | ⟨part, hpart, h⟩
  · exact Or.inl (List.mem_singleton.mp h)
  · obtain ⟨k, -, rfl⟩ := List.mem_map.mp hpart
    exact Or.inr (isDigit_of_mem_decimal h)

theorem splitPoints_text (n : Nat) : splitPoints (text n) = (quads n).map decimal := by
  unfold splitPoints
  rw [text_eq, List.splitOn_intercalate]
  · intro part hpart hmem
    obtain ⟨k, -, rfl⟩ := List.mem_map.mp hpart
    exact absurd (isDigit_of_mem_decimal hmem) (by decide)
  · simp [quads]

theorem parts_text (n : Nat) : parts (text n) = (quads n).map decimal := by
  unfold parts
  dsimp only
  rw [splitPoints_text, if_neg]
  simp [quads, decimal_ne_nil]

theorem endsInNumber_text (n : Nat) : endsInNumber (text n) = true := by
  have hlast : ((quads n).map decimal).getLast? = some (decimal (n % 256)) := rfl
  unfold endsInNumber
  rw [parts_text, hlast]
  dsimp only
  rw [part?_decimal (Nat.mod_lt _ (by decide)), Option.isSome_some, Bool.or_true]

/-- **An IPv4 address is read back.** -/
theorem ofHost_text {n : Nat} (h : n < 2 ^ 32) : ofHost (text n) = .ok n := by
  have hparts : ((quads n).map decimal).mapM part? = some (quads n) :=
    Domain.mapM_map fun _ hk => part?_decimal (lt_of_mem_quads hk)
  have hsmall : ∀ k, ¬ 255 < k % 256 := fun k => by omega
  unfold ofHost
  dsimp only
  rw [parts_text, if_neg (by simp [quads]), hparts]
  simp only [quads, List.reverse_cons, List.reverse_nil, List.nil_append, List.cons_append]
  have hroom : Nat.pow 256 (4 - [n / 256 % 256, n / 0x10000 % 256, n / 0x1000000 % 256].length) = 256 := rfl
  rw [hroom, if_neg]
  · refine congrArg Except.ok ?_
    simp only [List.foldr_cons, List.foldr_nil]
    omega
  · simp only [List.any_cons, List.any_nil, hsmall, decide_false, Bool.or_false, Bool.false_eq_true, false_or]
    omega

theorem foldr_lt (front : List Nat) (h : ∀ byte ∈ front, byte ≤ 255) :
    front.foldr (fun byte n => n * 256 + byte) 0 < 256 ^ front.length := by
  induction front with
  | nil => exact Nat.one_pos
  | cons byte front ih =>
    have hbyte := h byte List.mem_cons_self
    have hfront := ih fun x hx => h x (List.mem_cons_of_mem _ hx)
    rw [List.foldr_cons, List.length_cons, Nat.pow_succ]
    omega

/-- Every IPv4 address has 32 bits. -/
theorem lt_of_ofHost {host : List Char} {n : Nat} (h : ofHost host = .ok n) : n < 2 ^ 32 := by
  unfold ofHost at h
  dsimp only at h
  split at h
  · cases h
  rename_i hlength
  split at h
  · cases h
  rename_i ns hns
  split at h
  · cases h
  rename_i last front hreverse
  split at h
  · cases h
  rename_i hbounds
  cases h
  have hcount : front.length + 1 ≤ 4 := by
    have hsame := congrArg List.length hreverse
    rw [List.length_reverse, Domain.length_of_mapM hns, List.length_cons] at hsame
    omega
  rw [not_or] at hbounds
  obtain ⟨hfront, hlast⟩ := hbounds
  have hsum := foldr_lt front fun byte hbyte => by
    by_contra hlarge
    exact hfront (List.any_eq_true.mpr ⟨byte, hbyte, decide_eq_true (by omega)⟩)
  rw [Nat.pow_eq] at hlast ⊢
  generalize hroom : 256 ^ (4 - front.length) = room at *
  generalize front.foldr (fun byte n => n * 256 + byte) 0 = sum at *
  calc sum * room + last < (sum + 1) * room := by
        rw [Nat.add_mul]
        omega
    _ ≤ 256 ^ front.length * room := Nat.mul_le_mul_right _ hsum
    _ = 256 ^ 4 := by rw [← hroom, ← Nat.pow_add, Nat.add_sub_cancel' (Nat.le_of_succ_le hcount)]

/-- A part of an address is a label that is kept. -/
theorem kept_decimal (k : Nat) : Domain.Kept ((decimal k).map Char.toNat) := by
  have hvalue : ∀ n ∈ (decimal k).map Char.toNat, 48 ≤ n ∧ n < 58 := by
    intro n hn
    obtain ⟨c, hc, rfl⟩ := List.mem_map.mp hn
    have hdigit := isDigit_of_mem_decimal hc
    simp only [Char.isDigit, Bool.and_eq_true, decide_eq_true_eq] at hdigit
    exact ⟨hdigit.1, Nat.lt_succ_of_le hdigit.2⟩
  refine ⟨fun n hn _ => ?_, fun _ => ?_⟩
  · obtain ⟨hlow, hhigh⟩ := hvalue n hn
    exact (by decide : ∀ n < 58, 48 ≤ n → Domain.IsPlain n) n hhigh hlow
  · generalize (decimal k).map Char.toNat = label at hvalue
    unfold Domain.decodeLabel
    split
    · have := (hvalue 0x78 List.mem_cons_self).2
      omega
    · rfl

/-- **An IPv4 address has no other ASCII form.** -/
theorem eq_of_toAscii_text {n : Nat} {name : List Char} (h : Domain.toAscii (text n) = some name) :
    name = text n := by
  have hjoined : text n = Domain.joined ((quads n).map fun k => (decimal k).map Char.toNat) := by
    unfold Domain.joined
    rw [text_eq, List.map_map]
    congr 1
    refine List.map_congr_left fun k _ => (Domain.encodeLabel_map_toNat fun c hc => ?_).symm
    have hdigit := isDigit_of_mem_decimal hc
    simp only [Char.isDigit, Bool.and_eq_true, decide_eq_true_eq] at hdigit
    exact Nat.lt_of_le_of_lt hdigit.2 (by decide)
  rw [hjoined] at h ⊢
  refine Domain.eq_of_toAscii_joined (by simp [quads]) (fun label hlabel => ?_) h
  obtain ⟨k, -, rfl⟩ := List.mem_map.mp hlabel
  exact kept_decimal k

end Ipv4

/-! ## IPv6 -/

namespace Ipv6

variable {ns : List Nat} {n : Nat}

/-- The eight pieces of an address. -/
structure IsAddress (ns : List Nat) : Prop where
  length : ns.length = 8
  small : ∀ n ∈ ns, n < 65536

/-! ### What is written -/

/-- A digit of a piece. -/
def IsHex (c : Char) : Prop := ∃ k < 16, c = Nat.digitChar k

theorem isHex_of_mem_toDigits {c : Char} (h : c ∈ Nat.toDigits 16 n) : IsHex c := by
  induction n using Nat.strongRecOn with
  | ind n ih =>
    rw [Nat.toDigits_eq_if (by decide)] at h
    by_cases hn : n < 16
    · rw [if_pos hn, List.mem_singleton] at h
      exact ⟨n, hn, h⟩
    · rw [if_neg hn, List.mem_append, List.mem_singleton] at h
      rcases h with h | h
      · exact ih _ (Nat.div_lt_self (by omega) (by decide)) h
      · exact ⟨n % 16, Nat.mod_lt _ (by decide), h⟩

theorem IsHex.ne {c d : Char} (h : IsHex c) (hd : ∀ k < 16, Nat.digitChar k ≠ d) : c ≠ d := by
  obtain ⟨k, hk, rfl⟩ := h
  exact hd k hk

theorem IsHex.ne_colon {c : Char} (h : IsHex c) : c ≠ ':' := h.ne (by decide)

/-- An address is written with digits and colons. -/
theorem mem_joinPieces {c : Char} (h : c ∈ joinPieces ns) : c = ':' ∨ IsHex c := by
  rcases Text.mem_of_mem_intercalate h with h | ⟨piece, hpiece, h⟩
  · exact Or.inl (List.mem_singleton.mp h)
  · obtain ⟨n, -, rfl⟩ := List.mem_map.mp hpiece
    exact Or.inr (isHex_of_mem_toDigits h)

theorem mem_text {c : Char} (h : c ∈ text ns) : c = ':' ∨ IsHex c := by
  unfold text at h
  dsimp only at h
  split at h
  · exact mem_joinPieces h
  · rcases List.mem_append.mp h with h | h
    · rcases List.mem_append.mp h with h | h
      · exact mem_joinPieces h
      · exact Or.inl (by simpa using h)
    · exact mem_joinPieces h

theorem zeroRun_spec (ns : List Nat) : ∃ back, ns = List.replicate (zeroRun ns) 0 ++ back := by
  induction ns with
  | nil => exact ⟨[], rfl⟩
  | cons n ns ih =>
    cases n with
    | zero =>
      obtain ⟨back, hback⟩ := ih
      exact ⟨back, by rw [zeroRun, List.replicate_succ, List.cons_append, ← hback]⟩
    | succ n => exact ⟨(n + 1) :: ns, rfl⟩

/-- **The run that is left out** consists of zeros. -/
theorem longestRun_spec (ns : List Nat) (start : Nat) : ∃ front back,
    ns = front ++ List.replicate (longestRun ns start).2 0 ++ back ∧
      (longestRun ns start).1 = start + front.length := by
  induction ns generalizing start with
  | nil => exact ⟨[], [], rfl, rfl⟩
  | cons n ns ih =>
    unfold longestRun
    dsimp only
    split
    · obtain ⟨back, hback⟩ := zeroRun_spec (n :: ns)
      exact ⟨[], back, by rw [List.nil_append, ← hback], rfl⟩
    · obtain ⟨front, back, hns, hstart⟩ := ih (start + 1)
      refine ⟨n :: front, back, ?_, ?_⟩
      · rw [List.cons_append, List.cons_append, ← hns]
      · rw [hstart, List.length_cons]
        omega

/-- An address is written whole, or as two sides between which zeros are left out. -/
theorem text_cases (ns : List Nat) : text ns = joinPieces ns ∨
    ∃ front back zeros, 2 ≤ zeros ∧ ns = front ++ List.replicate zeros 0 ++ back ∧
      text ns = joinPieces front ++ ':' :: ':' :: joinPieces back := by
  obtain ⟨front, back, hns, hstart⟩ := longestRun_spec ns 0
  unfold text
  dsimp only
  split
  · exact Or.inl rfl
  · rename_i hlong
    refine Or.inr ⟨front, back, _, by omega, hns, ?_⟩
    generalize (longestRun ns 0).2 = zeros at *
    have htake : ns.take (longestRun ns 0).1 = front := by
      rw [hstart, Nat.zero_add, hns, List.append_assoc, List.take_left]
    have hdrop : ns.drop ((longestRun ns 0).1 + zeros) = back := by
      rw [hstart, Nat.zero_add, hns]
      exact List.drop_left' (by simp)
    rw [htake, hdrop, List.append_assoc]
    rfl

/-! ### What is read -/

theorem piece?_toDigits (h : n < 65536) : piece? (Nat.toDigits 16 n) = some n := by
  have hlength : (Nat.toDigits 16 n).length ≤ 4 :=
    (Nat.length_toDigits_le_iff (by decide) (by decide)).mpr h
  unfold piece?
  rw [if_neg, digits?_toDigits (by decide) (by decide)]
  simp [Nat.toDigits_ne_nil, hlength]

theorem pieces?_map (ipv4AtEnd : Bool) (h : ∀ n ∈ ns, n < 65536) :
    pieces? ipv4AtEnd (ns.map (Nat.toDigits 16)) = some ns := by
  induction ns with
  | nil => rfl
  | cons n ns ih =>
    have hfirst := piece?_toDigits (h n List.mem_cons_self)
    cases ns with
    | nil =>
      have hpoint : (Nat.toDigits 16 n).contains '.' = false := by
        rw [List.contains_eq_mem, decide_eq_false_iff_not]
        exact fun hmem => (isHex_of_mem_toDigits hmem).ne (by decide) rfl
      simp only [List.map_cons, List.map_nil, pieces?, hpoint, Bool.and_false, hfirst]
      rfl
    | cons next more =>
      have hrest := ih fun x hx => h x (List.mem_cons_of_mem _ hx)
      simp only [List.map_cons] at hrest ⊢
      rw [pieces?, hfirst, hrest]
      · rfl
      · exact List.cons_ne_nil _ _

/-- A side of an address is read back. -/
theorem side?_joinPieces (ipv4AtEnd : Bool) (h : ∀ n ∈ ns, n < 65536) :
    side? ipv4AtEnd (joinPieces ns) = some ns := by
  by_cases hns : ns = []
  · subst hns
    rfl
  have hcolon : ∀ piece ∈ ns.map (Nat.toDigits 16), ':' ∉ piece := by
    intro piece hpiece hmem
    obtain ⟨n, -, rfl⟩ := List.mem_map.mp hpiece
    exact (isHex_of_mem_toDigits hmem).ne_colon rfl
  have hsplit : (joinPieces ns).splitOn ':' = ns.map (Nat.toDigits 16) :=
    List.splitOn_intercalate _ hcolon (by simpa using hns)
  have hne : (joinPieces ns).isEmpty = false := by
    rw [List.isEmpty_eq_false_iff]
    intro hempty
    obtain ⟨n, more, rfl⟩ := List.exists_cons_of_ne_nil hns
    rw [hempty] at hsplit
    have hpiece := List.mem_cons_self (a := Nat.toDigits 16 n) (l := more.map (Nat.toDigits 16))
    rw [← List.map_cons, ← hsplit, List.splitOn_nil, List.mem_singleton] at hpiece
    exact Nat.toDigits_ne_nil hpiece
  unfold side?
  rw [hne, if_neg (by decide), hsplit, pieces?_map ipv4AtEnd h]

/-! ### The gap -/

theorem splitAtGap_cons_of_ne {c : Char} (hc : c ≠ ':') (rest : List Char) :
    splitAtGap (c :: rest) = (splitAtGap rest).map fun (a, b) => (c :: a, b) := by
  rw [splitAtGap]
  rintro rest' rfl -
  exact hc rfl

theorem splitAtGap_colon {c : Char} (hc : c ≠ ':') (rest : List Char) :
    splitAtGap (':' :: c :: rest) = (splitAtGap (c :: rest)).map fun (a, b) => (':' :: a, b) := by
  rw [splitAtGap]
  rintro rest' - heq
  cases heq
  exact hc rfl

theorem splitAtGap_append_of_ne {piece rest : List Char} (h : ∀ c ∈ piece, c ≠ ':') :
    splitAtGap (piece ++ rest) = (splitAtGap rest).map fun (a, b) => (piece ++ a, b) := by
  induction piece with
  | nil =>
    rw [List.nil_append]
    cases splitAtGap rest <;> rfl
  | cons c piece ih =>
    rw [List.cons_append, splitAtGap_cons_of_ne (h c List.mem_cons_self),
      ih fun x hx => h x (List.mem_cons_of_mem _ hx)]
    cases splitAtGap rest <;> rfl

/-- **No gap is among the pieces**, nor where they end. -/
theorem splitAtGap_joinPieces (ns : List Nat) (rest : List Char) :
    splitAtGap (joinPieces ns ++ rest) = (splitAtGap rest).map fun (a, b) => (joinPieces ns ++ a, b) := by
  have hpiece : ∀ n, ∀ c ∈ Nat.toDigits 16 n, c ≠ ':' := fun n c hc => (isHex_of_mem_toDigits hc).ne_colon
  induction ns with
  | nil => exact splitAtGap_append_of_ne (by simp [joinPieces])
  | cons n ns ih =>
    cases ns with
    | nil =>
      unfold joinPieces
      rw [List.map_singleton, List.intercalate_singleton]
      exact splitAtGap_append_of_ne (hpiece n)
    | cons next more =>
      have hjoin : joinPieces (n :: next :: more) =
          Nat.toDigits 16 n ++ ':' :: joinPieces (next :: more) := by
        simp [joinPieces, List.intercalate_cons_cons]
      obtain ⟨c, text, htext⟩ : ∃ c text, joinPieces (next :: more) = c :: text ∧ c ≠ ':' := by
        obtain ⟨c, digits, hdigits⟩ := List.exists_cons_of_ne_nil (Nat.toDigits_ne_nil (n := next) (b := 16))
        have hc := hpiece next c (hdigits ▸ List.mem_cons_self)
        cases more <;> simp [joinPieces, List.intercalate_cons_cons, hdigits, hc]
      rw [hjoin, List.append_assoc, splitAtGap_append_of_ne (hpiece n), List.cons_append, htext.1,
        List.cons_append, splitAtGap_colon htext.2, ← List.cons_append, ← htext.1, ih]
      cases splitAtGap rest <;> simp

/-- **An IPv6 address is read back.** -/
theorem ofText?_text (h : IsAddress ns) : ofText? (text ns) = some ns := by
  unfold ofText?
  rcases text_cases ns with htext | ⟨front, back, zeros, hzeros, hns, htext⟩
  · have hgap := splitAtGap_joinPieces ns []
    rw [List.append_nil] at hgap
    rw [htext, hgap]
    simp only [splitAtGap, Option.map_none]
    rw [side?_joinPieces true h.small]
    simp [h.length]
  · have hfront : ∀ n ∈ front, n < 65536 := fun n hn => h.small n (by rw [hns]; simp [hn])
    have hback : ∀ n ∈ back, n < 65536 := fun n hn => h.small n (by rw [hns]; simp [hn])
    have hlength : front.length + zeros + back.length = 8 := by
      rw [← h.length, hns]
      simp only [List.length_append, List.length_replicate]
    have hmissing : 8 - front.length - back.length = zeros := by omega
    rw [htext, splitAtGap_joinPieces]
    simp only [splitAtGap, Option.map_some, List.append_nil]
    rw [side?_joinPieces false hfront, side?_joinPieces true hback, Option.bind_eq_bind, Option.bind_some,
      Option.bind_some, if_pos (by omega), hmissing, ← hns]

/-! ### Every address that is read -/

theorem lt_of_piece? {cs : List Char} (h : piece? cs = some n) : n < 65536 := by
  unfold piece? at h
  split at h
  · cases h
  rename_i hlength
  rw [not_or] at hlength
  calc n < 16 ^ cs.length := lt_of_digits? h
    _ ≤ 16 ^ 4 := Nat.pow_le_pow_right (by decide) (by omega)

theorem lt_of_byte? {cs : List Char} (h : byte? cs = some n) : n < 256 := by
  unfold byte? at h
  split at h
  · cases h
  · cases h
    decide
  · cases h
  · split at h
    · dsimp only at h
      split at h
      · cases h
        omega
      · cases h
    · cases h

theorem lt_of_mem_embedded? {cs : List Char} (h : embedded? cs = some ns) : ∀ n ∈ ns, n < 65536 := by
  unfold embedded? at h
  split at h
  · rename_i a b c d hbytes
    cases h
    have hbyte : ∀ x ∈ [a, b, c, d], x < 256 := by
      intro x hx
      obtain ⟨part, -, hpart⟩ := Domain.exists_of_mapM hbytes hx
      exact lt_of_byte? hpart
    have ha := hbyte a (by simp)
    have hb := hbyte b (by simp)
    have hc := hbyte c (by simp)
    have hd := hbyte d (by simp)
    intro n hn
    simp only [List.mem_cons, List.not_mem_nil, or_false] at hn
    omega
  · cases h

theorem lt_of_mem_pieces? {ipv4AtEnd : Bool} {parts : List (List Char)}
    (h : pieces? ipv4AtEnd parts = some ns) : ∀ n ∈ ns, n < 65536 := by
  induction parts generalizing ns with
  | nil =>
    cases h
    simp
  | cons part rest ih =>
    cases rest with
    | nil =>
      rw [pieces?] at h
      split at h
      · exact lt_of_mem_embedded? h
      · obtain ⟨n, hn, rfl⟩ := Option.map_eq_some_iff.mp h
        simpa using lt_of_piece? hn
    | cons next more =>
      rw [pieces?] at h
      · obtain ⟨n, hn, h⟩ := Option.bind_eq_some_iff.mp h
        obtain ⟨ns', hns', h⟩ := Option.bind_eq_some_iff.mp h
        cases h
        intro x hx
        rcases List.mem_cons.mp hx with rfl | hx
        · exact lt_of_piece? hn
        · exact ih hns' x hx
      · exact List.cons_ne_nil _ _

theorem lt_of_mem_side? {ipv4AtEnd : Bool} {cs : List Char} (h : side? ipv4AtEnd cs = some ns) :
    ∀ n ∈ ns, n < 65536 := by
  unfold side? at h
  split at h
  · cases h
    simp
  · exact lt_of_mem_pieces? h

/-- Every address that is read has eight pieces of 16 bits. -/
theorem isAddress_of_ofText? {cs : List Char} (h : ofText? cs = some ns) : IsAddress ns := by
  unfold ofText? at h
  split at h
  · obtain ⟨whole, hwhole, h⟩ := Option.bind_eq_some_iff.mp h
    split at h
    · rename_i hlength
      cases h
      exact ⟨hlength, lt_of_mem_side? hwhole⟩
    · cases h
  · obtain ⟨front, hfront, h⟩ := Option.bind_eq_some_iff.mp h
    obtain ⟨back, hback, h⟩ := Option.bind_eq_some_iff.mp h
    split at h
    · rename_i hlength
      cases h
      refine ⟨?_, fun n hn => ?_⟩
      · simp only [List.length_append, List.length_replicate]
        omega
      · rcases List.mem_append.mp hn with hn | hn
        · rcases List.mem_append.mp hn with hn | hn
          · exact lt_of_mem_side? hfront n hn
          · rw [List.eq_of_mem_replicate hn]
            decide
        · exact lt_of_mem_side? hback n hn
    · cases h

end Ipv6

end Checkout
