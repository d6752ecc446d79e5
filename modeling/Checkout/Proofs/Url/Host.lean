import Checkout.Proofs.Url.Address
import Checkout.Proofs.Url.Userinfo

/-!
# Hosts are read back

Whatever a URL was read from, its host is written without blanks and without the signs that part a URL, or it
stands in brackets. That is no matter of course: a host is percent-decoded and a label in Punycode is decoded
too, so what was left out of the text can come back. A host that is written so has no other meaning: if it can
be read at all, the host is read.

Results:
* `Host.Fits.isHostText`: how a host is written;
* `eq_of_readHost`: the host that is read is the one that was written;
* `newline_not_mem_hostText`: a host is written on one line.
-/

namespace Checkout

open Number

/-! ## What hosts are written with -/

/-- A character that comes after the blank and is none of the signs. -/
structure ClearOf (signs : List Char) (c : Char) : Prop where
  visible : 0x20 < c.toNat
  other : c ∉ signs

instance (signs : List Char) (c : Char) : Decidable (ClearOf signs c) :=
  decidable_of_iff (0x20 < c.toNat ∧ c ∉ signs) ⟨fun ⟨h₁, h₂⟩ => ⟨h₁, h₂⟩, fun ⟨h₁, h₂⟩ => ⟨h₁, h₂⟩⟩

theorem ClearOf.mono {signs signs' : List Char} {c : Char} (h : ClearOf signs c) (hsub : signs' ⊆ signs) :
    ClearOf signs' c :=
  ⟨h.visible, fun hmem => h.other (hsub hmem)⟩

theorem ClearOf.ne {signs : List Char} {c d : Char} (h : ClearOf signs c) (hd : d ∈ signs) : c ≠ d := by
  rintro rfl
  exact h.other hd

/-- The signs that part a URL around its host. -/
def partSigns : List Char := ['#', '/', '?', '@', '\\']

/-- The signs that stand in no name. -/
def nameSigns : List Char := ['#', '/', '?', '@', '\\', '[', ']', ':']

/-- The signs that do not stand between brackets. -/
def bracketSigns : List Char := ['#', '/', '?', '@', '\\', '[', ']']

/-- The text of a host: a name, or an address in brackets. -/
inductive IsHostText : List Char → Prop
  | bare {cs : List Char} (hne : cs ≠ []) (hchar : ∀ c ∈ cs, ClearOf nameSigns c) : IsHostText cs
  | bracketed {cs : List Char} (hchar : ∀ c ∈ cs, ClearOf bracketSigns c) : IsHostText ('[' :: cs ++ [']'])

theorem IsHostText.ne_nil {cs : List Char} (h : IsHostText cs) : cs ≠ [] := by
  cases h with
  | bare hne => exact hne
  | bracketed => exact List.cons_ne_nil _ _

theorem IsHostText.clearOf {cs : List Char} (h : IsHostText cs) {c : Char} (hc : c ∈ cs) :
    ClearOf partSigns c := by
  cases h with
  | bare hne hchar => exact (hchar c hc).mono (by decide)
  | bracketed hchar =>
    rcases List.mem_cons.mp hc with rfl | hc
    · decide
    rcases List.mem_append.mp hc with hc | hc
    · exact (hchar c hc).mono (by decide)
    · rw [List.mem_singleton.mp hc]
      decide

theorem clearOf_of_isDigit {c : Char} (h : c.isDigit = true) : ClearOf nameSigns c := by
  refine ⟨?_, fun hmem => ?_⟩
  · simp only [Char.isDigit, Bool.and_eq_true, decide_eq_true_eq] at h
    exact Nat.lt_of_lt_of_le (by decide) h.1
  · rw [Percent.forall_mem_of_all (p := fun d => d.isDigit = false) (by decide) c hmem] at h
    cases h

theorem clearOf_of_isPlain {c : Char} (h : Domain.IsPlain c.toNat) : ClearOf nameSigns c := by
  refine ⟨?_, fun hmem =>
    Percent.forall_mem_of_all (p := fun d => ¬ Domain.IsPlain d.toNat) (by decide) c hmem h⟩
  by_contra hblank
  have hsmall : c.toNat ≤ 0x20 := by omega
  have hallowed := h.allowed
  simp [Domain.isForbidden, hsmall] at hallowed

theorem clearOf_of_isTriple {c : Char} (h : Percent.IsTriple c) : ClearOf nameSigns c := by
  rcases h with rfl | ⟨k, hk, rfl⟩
  · decide
  · exact (by decide : ∀ k < 16, ClearOf nameSigns (Percent.upperDigit k)) k hk

theorem clearOf_of_isHex {c : Char} (h : Ipv6.IsHex c) : ClearOf bracketSigns c := by
  obtain ⟨k, hk, rfl⟩ := h
  exact (by decide : ∀ k < 16, ClearOf bracketSigns (Nat.digitChar k)) k hk

/-- A character that is not encoded stands where blanks are not allowed. -/
theorem visible_of_not_isControl {c : Char} (hcontrol : Percent.isControl c = false) (hblank : c ≠ ' ') :
    0x20 < c.toNat := by
  have hlow : 0x20 ≤ c.toNat := by
    by_contra hlow
    have hsmall : c.toNat < 0x20 := by omega
    simp [Percent.isControl, hsmall] at hcontrol
  exact Nat.lt_of_le_of_ne hlow fun heq => hblank (Char.toNat_inj.mp heq.symm)

namespace Host

variable {cs : List Char} {host host' : Host}

/-! ## How hosts are written -/

theorem isHostText_ipv4 (n : Nat) : IsHostText (Ipv4.text n) := by
  refine .bare (by simp [Ipv4.text]) fun c hc => ?_
  rcases Ipv4.mem_text hc with rfl | hdigit
  · decide
  · exact clearOf_of_isDigit hdigit

theorem isHostText_ipv6 (ns : List Nat) : IsHostText ('[' :: Ipv6.text ns ++ [']']) := by
  refine .bracketed fun c hc => ?_
  rcases Ipv6.mem_text hc with rfl | hc
  · decide
  · exact clearOf_of_isHex hc

/-- What stands in brackets is an IPv6 address. -/
theorem ofBracketed_eq_ok (h : ofBracketed cs = .ok host) : ∃ ns, host = .ipv6 ns ∧ Ipv6.IsAddress ns := by
  unfold ofBracketed at h
  split at h
  · split at h
    · rename_i ns hns
      cases h
      exact ⟨ns, rfl, Ipv6.isAddress_of_ofText? hns⟩
    · cases h
  · cases h

theorem ofSpecial_of_head (h : cs.head? ≠ some '[') :
    ofSpecial cs = (do
      let name ← Domain.ofEncoded cs
      if name.isEmpty then .error .emptyHost
      else if Ipv4.endsInNumber name then (Ipv4.ofHost name).map .ipv4
      else .ok (.name name)) := by
  unfold ofSpecial
  split
  · exact absurd rfl h
  · rfl

/-- The host behind a special scheme is an address or the ASCII form of a domain name. -/
inductive IsSpecial : Host → Prop
  | ipv4 {n : Nat} (hsmall : n < 2 ^ 32) : IsSpecial (.ipv4 n)
  | ipv6 {ns : List Nat} (haddress : Ipv6.IsAddress ns) : IsSpecial (.ipv6 ns)
  | name {cs name : List Char} (hascii : Domain.ofEncoded cs = .ok name) (hne : name ≠ [])
      (hnumber : Ipv4.endsInNumber name = false) : IsSpecial (.name name)

theorem ofSpecial_eq_ok (h : ofSpecial cs = .ok host) : IsSpecial host := by
  unfold ofSpecial at h
  split at h
  · obtain ⟨ns, rfl, haddress⟩ := ofBracketed_eq_ok h
    exact .ipv6 haddress
  obtain ⟨name, hname, h⟩ := Url.bind_eq_ok h
  split at h
  · cases h
  rename_i hne
  split at h
  · obtain ⟨n, haddress, rfl⟩ := Url.map_eq_ok h
    exact .ipv4 (Ipv4.lt_of_ofHost haddress)
  · rename_i hnumber
    cases h
    exact .name hname (by simpa using hne) (by simpa using hnumber)

theorem IsSpecial.isHostText (h : IsSpecial host) : IsHostText host.text := by
  cases h with
  | ipv4 => exact isHostText_ipv4 _
  | ipv6 => exact isHostText_ipv6 _
  | name hascii hne =>
    refine .bare hne fun c hc => ?_
    rcases Domain.isPlain_of_mem_ofEncoded hascii hc with rfl | hplain
    · decide
    · exact clearOf_of_isPlain hplain

/-- The host behind any other scheme is an IPv6 address or a text without delimiters. -/
inductive IsOpaque : Host → Prop
  | ipv6 {ns : List Nat} (haddress : Ipv6.IsAddress ns) : IsOpaque (.ipv6 ns)
  | name {cs : List Char} (hne : cs ≠ []) (hallowed : ∀ c ∈ cs, isForbidden c = false) :
      IsOpaque (.name (Percent.encode Percent.isControl cs))

theorem ofOpaque_eq_ok (h : ofOpaque cs = .ok (some host)) : IsOpaque host := by
  unfold ofOpaque at h
  split at h
  · obtain ⟨found, hfound, heq⟩ := Url.map_eq_ok h
    obtain ⟨ns, rfl, haddress⟩ := ofBracketed_eq_ok hfound
    cases heq
    exact .ipv6 haddress
  · cases h
  · rename_i hne
    split at h
    · cases h
    · rename_i hallowed
      cases h
      refine .name (fun hempty => hne hempty) fun c hc => ?_
      by_contra hforbidden
      exact hallowed (List.any_eq_true.mpr ⟨c, hc, by simpa using hforbidden⟩)

/-- How a name behind any other scheme is written. -/
theorem clearOf_of_mem_encode (hallowed : ∀ c ∈ cs, isForbidden c = false) {c : Char}
    (hc : c ∈ Percent.encode Percent.isControl cs) : ClearOf nameSigns c := by
  rcases Percent.mem_encode hc with ⟨hmem, hcontrol⟩ | htriple
  · have hother : ∀ d ∈ ' ' :: nameSigns, c ≠ d := by
      rintro d hd rfl
      have hforbidden := hallowed c hmem
      rw [Percent.forall_mem_of_all (p := fun d => isForbidden d = true) (by decide) c hd] at hforbidden
      cases hforbidden
    exact ⟨visible_of_not_isControl hcontrol (hother ' ' List.mem_cons_self),
      fun hsign => hother c (List.mem_cons_of_mem _ hsign) rfl⟩
  · exact clearOf_of_isTriple htriple

theorem IsOpaque.isHostText (h : IsOpaque host) : IsHostText host.text := by
  cases h with
  | ipv6 => exact isHostText_ipv6 _
  | name hne hallowed =>
    exact .bare (Percent.encode_ne_nil hne) fun c hc => clearOf_of_mem_encode hallowed hc

/-! ## What is read of them -/

theorem ofBracketed_ipv6 {ns : List Nat} (h : Ipv6.IsAddress ns) :
    ofBracketed (Ipv6.text ns ++ [']']) = .ok (.ipv6 ns) := by
  unfold ofBracketed
  simp only [List.getLast?_concat, List.dropLast_concat, Ipv6.ofText?_text h]

theorem head_ne_of_not_mem {x : Char} (h : x ∉ cs) : cs.head? ≠ some x :=
  fun hhead => h (List.mem_of_head? hhead)

/-- **A host behind a special scheme has no other meaning.** -/
theorem IsSpecial.eq_of_ofSpecial (h : IsSpecial host) (hread : ofSpecial host.text = .ok host') :
    host' = host := by
  cases h with
  | ipv6 haddress =>
    change ofBracketed (Ipv6.text _ ++ [']']) = _ at hread
    rw [ofBracketed_ipv6 haddress] at hread
    exact (Except.ok.inj hread).symm
  | @ipv4 n hsmall =>
    have hopening : '[' ∉ Ipv4.text n := fun hmem => absurd (Ipv4.mem_text hmem) (by decide)
    have hpercent : '%' ∉ Ipv4.text n := fun hmem => absurd (Ipv4.mem_text hmem) (by decide)
    change ofSpecial (Ipv4.text n) = _ at hread
    rw [ofSpecial_of_head (head_ne_of_not_mem hopening)] at hread
    obtain ⟨name, hname, hread⟩ := Url.bind_eq_ok hread
    have hascii := Domain.ofEncoded_eq_ok hpercent hname
    rw [Ipv4.eq_of_toAscii_text hascii, Ipv4.endsInNumber_text, Ipv4.ofHost_text hsmall] at hread
    split at hread
    · cases hread
    · exact (Except.ok.inj hread).symm
  | @name cs name hascii hne hnumber =>
    have hopening : '[' ∉ name := fun hmem => by
      rcases Domain.isPlain_of_mem_ofEncoded hascii hmem with heq | hplain
      · exact absurd heq (by decide)
      · exact absurd hplain.allowed (by decide)
    change ofSpecial name = _ at hread
    rw [ofSpecial_of_head (head_ne_of_not_mem hopening)] at hread
    obtain ⟨name', hname, hread⟩ := Url.bind_eq_ok hread
    rw [Domain.eq_of_ofEncoded hascii hname, hnumber] at hread
    split at hread
    · cases hread
    · exact (Except.ok.inj hread).symm

/-- **A host behind any other scheme is read back.** -/
theorem IsOpaque.ofOpaque_text (h : IsOpaque host) : ofOpaque host.text = .ok (some host) := by
  cases h with
  | ipv6 haddress =>
    change (ofBracketed (Ipv6.text _ ++ [']'])).map some = _
    rw [ofBracketed_ipv6 haddress]
    rfl
  | @name cs hne hallowed =>
    have hforbidden : (Percent.encode Percent.isControl cs).any isForbidden = false := by
      refine List.any_eq_false.mpr fun c hc => ?_
      rcases Percent.mem_encode hc with ⟨hmem, -⟩ | htriple
      · simp [hallowed c hmem]
      · rcases htriple with rfl | ⟨k, hk, rfl⟩
        · decide
        · exact (by decide : ∀ k < 16, ¬ isForbidden (Percent.upperDigit k) = true) k hk
    change ofOpaque (Percent.encode Percent.isControl cs) = _
    unfold ofOpaque
    split
    · rename_i rest hrest
      exact absurd (by decide) (clearOf_of_mem_encode hallowed (hrest ▸ List.mem_cons_self)).other
    · exact absurd ‹_› (Percent.encode_ne_nil hne)
    · rw [hforbidden, if_neg (by decide), Percent.encode_encode Percent.sparesTriples_isControl]

/-! ## Both kinds of hosts -/

/-- A host that stands behind a scheme of this kind. -/
def Fits (kind : SchemeKind) (host : Host) : Prop := if kind.isSpecial then IsSpecial host else IsOpaque host

theorem Fits.isHostText {kind : SchemeKind} (h : Fits kind host) : IsHostText host.text := by
  unfold Fits at h
  split at h
  · exact h.isHostText
  · exact h.isHostText

end Host

namespace Url

/-- Every host that is read fits the scheme. -/
theorem fits_of_readHost {kind : SchemeKind} {cs : List Char} {host : Host}
    (h : readHost kind cs = .ok (some host)) : host.Fits kind := by
  unfold readHost at h
  unfold Host.Fits
  split at h
  · rename_i hspecial
    rw [if_pos hspecial]
    split at h
    · cases h
    obtain ⟨found, hfound, heq⟩ := map_eq_ok h
    cases heq
    exact Host.ofSpecial_eq_ok hfound
  · rename_i hspecial
    rw [if_neg hspecial]
    exact Host.ofOpaque_eq_ok h

/-- **A host has no other meaning**: what is read of it is the host. -/
theorem eq_of_readHost {kind : SchemeKind} {host : Host} {found : Option Host} (h : host.Fits kind)
    (hread : readHost kind host.text = .ok found) : found = some host := by
  unfold readHost at hread
  unfold Host.Fits at h
  split at hread
  · rename_i hspecial
    rw [if_pos hspecial] at h
    split at hread
    · cases hread
    obtain ⟨host', hhost, heq⟩ := map_eq_ok hread
    rw [← heq, h.eq_of_ofSpecial hhost]
  · rename_i hspecial
    rw [if_neg hspecial] at h
    rw [h.ofOpaque_text] at hread
    exact (Except.ok.inj hread).symm

/-! ## Hosts of whole URLs -/

theorem readAuthority_host {scheme cs : List Char} {kind : SchemeKind} {u : Url}
    (h : readAuthority scheme kind cs = .ok u) : ∃ text, readHost kind text = .ok u.host := by
  unfold readAuthority at h
  dsimp only at h
  split at h
  · cases h
  obtain ⟨host, hhost, h⟩ := bind_eq_ok h
  split at h
  · cases h
  obtain ⟨port, -, h⟩ := bind_eq_ok h
  split at h
  · cases h
  · cases h
    exact ⟨_, hhost⟩

theorem readFileHost_host {cs rest : List Char} {host : Host}
    (h : readFileHost cs = .ok (some host, rest)) : ∃ text, Host.ofSpecial text = .ok host := by
  unfold readFileHost at h
  split at h
  · split at h
    · dsimp only at h
      split at h
      · cases h
      split at h
      · cases h
      obtain ⟨found, hfound, h⟩ := bind_eq_ok h
      split at h
      · cases h
      · cases h
        exact ⟨_, hfound⟩
    · cases h
  · cases h

theorem readFile_host {cs : List Char} {u : Url} {host : Host} (h : readFile cs = .ok u)
    (hhost : u.host = some host) : ∃ text, Host.ofSpecial text = .ok host := by
  unfold readFile at h
  obtain ⟨⟨found, rest⟩, hfound, h⟩ := bind_eq_ok h
  cases h
  dsimp only at hhost
  split at hhost
  · cases hhost
  · exact readFileHost_host (hhost ▸ hfound)

/-- How the host of a URL is written. -/
theorem isHostText_host {text : String} {u : Url} {host : Host} (h : ofText text = .ok u)
    (hhost : u.host = some host) : IsHostText host.text := by
  have hauthority : ∀ {scheme kind cs}, readAuthority scheme kind cs = .ok u → IsHostText host.text := by
    intro scheme kind cs hread
    obtain ⟨_, hfound⟩ := readAuthority_host hread
    exact (fits_of_readHost (hhost ▸ hfound)).isHostText
  unfold ofText at h
  split at h
  · cases h
  split at h
  · obtain ⟨_, hfound⟩ := readFile_host h hhost
    exact (Host.ofSpecial_eq_ok hfound).isHostText
  · exact hauthority h
  · split at h
    · exact hauthority h
    · cases h
      cases hhost

/-- **The host of a URL with its port** is written on one line. -/
theorem newline_not_mem_hostText {text : String} {u : Url} (h : ofText text = .ok u) :
    '\n' ∉ u.hostText := by
  unfold hostText
  rw [List.mem_append, not_or]
  constructor
  · cases hhost : u.host with
    | none => simp
    | some host => exact fun hmem => absurd ((isHostText_host h hhost).clearOf hmem).visible (by decide)
  · cases u.port with
    | none => simp
    | some port =>
      intro hmem
      rcases List.mem_cons.mp hmem with heq | hmem
      · cases heq
      · exact absurd (clearOf_of_isDigit (Number.isDigit_of_mem_decimal hmem)).visible (by decide)

end Url

end Checkout
