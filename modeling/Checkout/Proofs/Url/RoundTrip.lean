import Checkout.Proofs.Url.Parts
import Checkout.Proofs.Url.Path

/-!
# URLs are read back

A URL with a host that was read is written so that each reader stops where it stopped before. So the text has
no other meaning: if it can be read at all, the URL is read. Whether it can be read is left open, as the rules
of domain names are not followed up: a host that breaks them is refused and not taken for another one.

Results:
* `settled_of_ofText`: what a URL with a host is made of;
* `eq_of_ofText_text`: the URL that is read is the one that was written.
-/

namespace Checkout.Url

open Text

variable {scheme cs rest : List Char} {text : String} {kind : SchemeKind} {u w : Url}

/-! ## What is read -/

/-- A URL with a host, as it is read. -/
structure Settled (u : Url) : Prop where
  scheme : IsScheme u.scheme
  notFile : SchemeKind.ofScheme u.scheme ≠ .file
  userinfo : IsUserinfo u.username u.password
  host : ∃ host, u.host = some host ∧ host.Fits (SchemeKind.ofScheme u.scheme)
  port : ∀ p ∈ u.port, IsPort u.scheme p
  path : ∃ names, u.path = .segments names ∧ (∀ name ∈ names, IsSegment (SchemeKind.ofScheme u.scheme) name) ∧
    ((SchemeKind.ofScheme u.scheme).isSpecial = true → names ≠ [])
  tail : IsTail (SchemeKind.ofScheme u.scheme) u.query u.fragment

/-- What is read behind the scheme. -/
theorem settled_of_readAuthority (hscheme : IsScheme scheme) (hkind : SchemeKind.ofScheme scheme = kind)
    (hfile : kind ≠ .file) (h : readAuthority scheme kind cs = .ok u) (hhost : u.host.isSome = true) :
    Settled u := by
  unfold readAuthority at h
  dsimp only at h
  split at h
  · cases h
  obtain ⟨host, hread, h⟩ := bind_eq_ok h
  split at h
  · cases h
  obtain ⟨⟨port, behind⟩, hport, h⟩ := bind_eq_ok h
  split at h
  · cases h
  cases h
  obtain ⟨host, rfl⟩ := Option.isSome_iff_exists.mp hhost
  subst hkind
  exact
    { scheme := hscheme
      notFile := hfile
      userinfo := isUserinfo_readUserinfo _
      host := ⟨host, rfl, fits_of_readHost hread⟩
      port := isPort_of_readPort? hport
      path := ⟨_, rfl, fun _ hname => isSegment_of_mem_readPath hname, fun h => readPath_ne_nil h _⟩
      tail := isTail_readTail _ _ }

theorem readFile_scheme (h : readFile cs = .ok u) : u.scheme = "file".toList := by
  unfold readFile at h
  obtain ⟨found, -, h⟩ := bind_eq_ok h
  cases h
  rfl

/-- **A URL with a host is settled**, if it is not one of files. -/
theorem settled_of_ofText (h : ofText text = .ok u) (hhost : u.host.isSome = true)
    (hfile : SchemeKind.ofScheme u.scheme ≠ .file) : Settled u := by
  unfold ofText at h
  cases hs : scheme? (clean text.toList) with
  | none =>
    rw [hs] at h
    cases h
  | some found =>
    obtain ⟨scheme, rest⟩ := found
    rw [hs] at h
    dsimp only at h
    have hscheme := isScheme_of_scheme? hs
    cases hk : SchemeKind.ofScheme scheme with
    | file =>
      rw [hk] at h
      exact absurd (congrArg SchemeKind.ofScheme (readFile_scheme h)) hfile
    | special =>
      rw [hk] at h
      exact settled_of_readAuthority hscheme hk (by decide) h hhost
    | other =>
      rw [hk] at h
      dsimp only at h
      split at h
      · exact settled_of_readAuthority hscheme hk (by decide) h hhost
      · cases h
        cases hhost

/-- The user of a settled URL does not matter. -/
theorem Settled.withUser? {user : List Char} (h : Settled u) (hw : u.withUser? user = some w) : Settled w := by
  unfold Url.withUser? at hw
  split at hw
  · cases hw
  · cases hw
    exact { h with userinfo := ⟨isEncoded_encode Percent.sparesTriples_notInUserinfo _, by simp⟩ }

/-! ## What is written -/

/-- What follows the authority. -/
def afterText (u : Url) : List Char := u.path.text ++ tailText u.query u.fragment

theorem text_eq (h : u.host.isSome = true) :
    u.text = u.scheme ++ ':' :: '/' :: '/' :: (u.userinfoText ++ (u.hostText ++ u.afterText)) := by
  obtain ⟨host, hhost⟩ := Option.isSome_iff_exists.mp h
  unfold text authorityText afterText tailText
  rw [hhost]
  simp

theorem clearOf_userinfoText (h : IsUserinfo u.username u.password) {c : Char} (hc : c ∈ u.userinfoText) :
    ClearOf endSigns c := by
  have hcontrol : ∀ c, Percent.isControl c = true → Percent.notInUserinfo c = true := fun c hc => by
    simp [Percent.notInUserinfo, Percent.notInPath, Percent.notInFragment, hc]
  have hencoded : ∀ {cs}, IsEncoded Percent.notInUserinfo cs → ∀ c ∈ cs, ClearOf endSigns c :=
    fun hcs => hcs.clearOf hcontrol (by decide)
  rw [userinfoText_eq] at hc
  split at hc
  · unfold infoText at hc
    rcases List.mem_append.mp hc with hc | hc
    · rcases List.mem_append.mp hc with hc | hc
      · exact hencoded h.username c hc
      · cases hp : u.password with
        | none =>
          rw [hp] at hc
          cases hc
        | some p =>
          rw [hp] at hc
          rcases List.mem_cons.mp hc with rfl | hc
          · decide
          · exact hencoded (h.password p hp).2 c hc
    · rw [List.mem_singleton.mp hc]
      decide
  · cases hc

theorem hostText_eq {host : Host} (h : u.host = some host) : u.hostText = host.text ++ portText u.port := by
  unfold hostText portText
  rw [h]
  rfl

theorem clearOf_hostText {host : Host} (h : u.host = some host) (htext : IsHostText host.text) {c : Char}
    (hc : c ∈ u.hostText) : ClearOf partSigns c := by
  rw [hostText_eq h] at hc
  rcases List.mem_append.mp hc with hc | hc
  · exact htext.clearOf hc
  · cases hp : u.port with
    | none =>
      rw [hp] at hc
      cases hc
    | some p =>
      rw [hp] at hc
      rcases List.mem_cons.mp hc with rfl | hc
      · decide
      · exact (clearOf_of_isDigit (Number.isDigit_of_mem_decimal hc)).mono (by decide)

/-- No sign in the authority ends it. -/
theorem Settled.clearOf_authority (h : Settled u) {c : Char} (hc : c ∈ u.userinfoText ++ u.hostText) :
    ClearOf endSigns c := by
  obtain ⟨host, hhost, hfits⟩ := h.host
  rcases List.mem_append.mp hc with hc | hc
  · exact clearOf_userinfoText h.userinfo hc
  · exact (clearOf_hostText hhost hfits.isHostText hc).mono (by decide)

theorem Settled.hostText_ne_nil (h : Settled u) : u.hostText ≠ [] := by
  obtain ⟨host, hhost, hfits⟩ := h.host
  rw [hostText_eq hhost]
  simp [hfits.isHostText.ne_nil]

/-- A path is written without the signs of the query and the fragment. -/
theorem clearOf_pathText {names : List (List Char)} (h : ∀ name ∈ names, IsSegment kind name) {c : Char}
    (hc : c ∈ (UrlPath.segments names).text) : ClearOf ['?', '#'] c := by
  have hcontrol : ∀ c, Percent.isControl c = true → Percent.notInPath c = true := fun c hc => by
    simp [Percent.notInPath, Percent.notInFragment, hc]
  obtain ⟨name, hname, hc⟩ := List.mem_flatMap.mp hc
  rcases List.mem_cons.mp hc with rfl | hc
  · decide
  · exact IsEncoded.clearOf (h name hname).encoded hcontrol (by decide) c hc

theorem clearOf_tailText {query fragment : Option (List Char)} (h : IsTail kind query fragment) {c : Char}
    (hc : c ∈ tailText query fragment) : ClearOf [] c := by
  have hquery : ∀ c, Percent.isControl c = true → Percent.notInQuery kind.isSpecial c = true := fun c hc => by
    simp [Percent.notInQuery, hc]
  have hfragment : ∀ c, Percent.isControl c = true → Percent.notInFragment c = true := fun c hc => by
    simp [Percent.notInFragment, hc]
  rcases List.mem_append.mp hc with hc | hc
  · cases query with
    | none => cases hc
    | some q =>
      rcases List.mem_cons.mp hc with rfl | hc
      · decide
      · exact (h.query q rfl).clearOf hquery (by simp [Percent.notInQuery]) c hc
  · cases fragment with
    | none => cases hc
    | some f =>
      rcases List.mem_cons.mp hc with rfl | hc
      · decide
      · exact (h.fragment f rfl).clearOf hfragment (by decide) c hc

theorem visible_of_isSchemeChar {c : Char} (h : isSchemeChar c = true) : 0x20 < c.toNat :=
  Percent.forall_ascii (p := fun c => isSchemeChar c = true → 0x20 < c.toNat) (by decide)
    (lt_of_isSchemeChar h) h

/-- **A settled URL is written without blanks.** -/
theorem Settled.visible (h : Settled u) {c : Char} (hc : c ∈ u.text) : 0x20 < c.toNat := by
  obtain ⟨host, hhost, hfits⟩ := h.host
  obtain ⟨names, hpath, hnames, -⟩ := h.path
  rw [text_eq (by rw [hhost]; rfl)] at hc
  rcases List.mem_append.mp hc with hc | hc
  · exact visible_of_isSchemeChar (h.scheme.chars c hc).1
  simp only [List.mem_cons] at hc
  rcases hc with rfl | rfl | rfl | hc
  · decide
  · decide
  · decide
  rcases List.mem_append.mp hc with hc | hc
  · exact (clearOf_userinfoText h.userinfo hc).visible
  rcases List.mem_append.mp hc with hc | hc
  · exact (clearOf_hostText hhost hfits.isHostText hc).visible
  unfold afterText at hc
  rw [hpath] at hc
  rcases List.mem_append.mp hc with hc | hc
  · exact (clearOf_pathText hnames hc).visible
  · exact (clearOf_tailText h.tail hc).visible

theorem head_tailText (query fragment : Option (List Char)) :
    ∀ c ∈ (tailText query fragment).head?, c = '?' ∨ c = '#' := by
  cases query <;> cases fragment <;> simp [tailText]

theorem endsPort_afterText {names : List (List Char)} (h : u.path = .segments names) : EndsPort u.afterText := by
  unfold afterText
  rw [h]
  cases names with
  | nil =>
    intro c hc
    exact Or.inr (head_tailText u.query u.fragment c hc)
  | cons name names =>
    intro c hc
    cases hc
    exact Or.inl rfl

/-! ## What is read of it -/

/-- A text without blanks counts as a whole. -/
theorem clean_eq_self (h : ∀ c ∈ cs, 0x20 < c.toNat) : clean cs = cs := by
  have hedge : ∀ {cs : List Char}, (∀ c ∈ cs, 0x20 < c.toNat) →
      cs.dropWhile (fun c => decide (c.toNat ≤ 0x20)) = cs := by
    intro cs hcs
    change ([] ++ cs).dropWhile _ = cs
    refine dropWhile_append_eq (by simp) fun c hc => ?_
    exact decide_eq_false (Nat.not_le_of_lt (hcs c (List.mem_of_head? hc)))
  unfold clean
  dsimp only
  rw [hedge h, hedge fun c hc => h c (List.mem_reverse.mp hc), List.reverse_reverse, List.filter_eq_self]
  intro c hc
  have hblank : ∀ d ∈ ['\t', '\n', '\r'], c ≠ d := by
    rintro d hd rfl
    exact Percent.forall_mem_of_all (p := fun d => ¬ 0x20 < d.toNat) (by decide) c hd (h c hc)
  simpa [and_assoc] using hblank

/-- The path ends where the query or the fragment begins. -/
theorem splitPath_afterText {names : List (List Char)} (hpath : u.path = .segments names)
    (hnames : ∀ name ∈ names, IsSegment kind name) :
    splitPath u.afterText = (u.path.text, tailText u.query u.fragment) := by
  have hfront : ∀ c ∈ u.path.text, (c != '?' && c != '#') = true := by
    intro c hc
    rw [hpath] at hc
    have hother := (clearOf_pathText hnames hc).other
    simpa using hother
  have hback : ∀ c ∈ (tailText u.query u.fragment).head?, (c != '?' && c != '#') = false := by
    intro c hc
    rcases head_tailText u.query u.fragment c hc with rfl | rfl <;> decide
  exact Prod.ext (takeWhile_append_eq hfront hback) (dropWhile_append_eq hfront hback)

/-- **What follows the scheme is read back.** -/
theorem Settled.eq_of_readAuthority (h : Settled u) (hkind : SchemeKind.ofScheme u.scheme = kind)
    (hread : readAuthority u.scheme kind (u.userinfoText ++ (u.hostText ++ u.afterText)) = .ok w) : w = u := by
  have hclear : ∀ c ∈ u.userinfoText ++ u.hostText, (!endsAuthority kind c) = true := fun c hc => by
    rw [endsAuthority_of_clearOf (h.clearOf_authority hc), Bool.not_false]
  have hnonempty : u.hostText.isEmpty = false := by simpa using h.hostText_ne_nil
  obtain ⟨-, -, huserinfo, ⟨host, hhost, hfits⟩, hport, ⟨names, hpath, hnames, hne⟩, htail⟩ := h
  rw [hkind] at hfits hnames hne htail
  have hafter := endsPort_afterText hpath
  have hends : ∀ c ∈ u.afterText.head?, (!endsAuthority kind c) = false := fun c hc => by
    rw [hafter.endsAuthority hc, Bool.not_true]
  have hsign : '@' ∉ u.hostText := fun hmem =>
    (clearOf_hostText hhost hfits.isHostText hmem).other (by decide)
  have hsplit : splitHost kind false (u.hostText ++ u.afterText) = (host.text, portText u.port ++ u.afterText) := by
    rw [hostText_eq hhost, List.append_assoc]
    exact splitHost_append hfits.isHostText (hafter.endsHost u.port)
  unfold readAuthority at hread
  rw [← List.append_assoc] at hread
  simp only [takeWhile_append_eq hclear hends, dropWhile_append_eq hclear hends, splitAtLast_userinfoText hsign,
    readUserinfo_infoText huserinfo, hnonempty, Bool.and_false, Bool.false_and, hsplit] at hread
  obtain ⟨found, hfound, hread⟩ := bind_eq_ok hread
  rw [eq_of_readHost hfits hfound] at hread
  simp only [Option.isNone_some, Bool.false_eq_true, false_and, if_false,
    readPort?_portText hport hafter] at hread
  have hw := Except.ok.inj hread
  rw [← hw]
  simp only [splitPath_afterText hpath hnames, readTail_tailText htail]
  rw [hpath, readPath_segments hnames hne, ← hpath, ← hhost]

/-- **A URL has no other meaning than the text that is written for it.** -/
theorem Settled.eq_of_ofText_text (h : Settled u) (hread : ofText (String.ofList u.text) = .ok w) : w = u := by
  obtain ⟨host, hhost, hfits⟩ := h.host
  unfold ofText at hread
  rw [String.toList_ofList, clean_eq_self fun _ => h.visible, text_eq (by rw [hhost]; rfl),
    scheme?_append h.scheme] at hread
  dsimp only at hread
  cases hk : SchemeKind.ofScheme u.scheme with
  | file => exact absurd hk h.notFile
  | special =>
    rw [hk] at hread
    have hslashes : ∀ c ∈ ['/', '/'], (c == '/' || c == '\\') = true := by simp
    have hstart : ∀ c ∈ (u.userinfoText ++ (u.hostText ++ u.afterText)).head?,
        (c == '/' || c == '\\') = false := by
      intro c hc
      have hne := List.append_ne_nil_of_right_ne_nil u.userinfoText h.hostText_ne_nil
      rw [← List.append_assoc, List.head?_append_of_ne_nil _ hne] at hc
      have hother := (h.clearOf_authority (List.mem_of_head? hc)).other
      simp only [endSigns, List.mem_cons, not_or] at hother
      simp [hother]
    have hdrop := dropWhile_append_eq hslashes hstart
    rw [List.cons_append, List.cons_append, List.nil_append] at hdrop
    dsimp only at hread
    rw [hdrop] at hread
    exact h.eq_of_readAuthority hk hread
  | other =>
    rw [hk] at hread
    exact h.eq_of_readAuthority hk hread

end Checkout.Url
