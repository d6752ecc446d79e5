import Checkout.Proofs.Url.Host

/-!
# The parts of a URL are read back

Each reader takes what it reads up to a sign: the scheme up to a colon, the user up to the last `@`, the host
up to a colon outside brackets, the port up to what is no digit, the query up to a hash. What is encoded holds
none of these signs, so a part that was read and is written again is read up to the same place.

For each part: what a part that was read is made of, and that it is read back.
-/

namespace Checkout.Url

open Number Text

variable {scheme cs rest text : List Char} {kind : SchemeKind}

/-! ## Scheme -/

/-- A character of a scheme. -/
def isSchemeChar (c : Char) : Bool := c.isAlphanum || c == '+' || c == '-' || c == '.'

/-- A scheme in lower case. -/
structure IsScheme (cs : List Char) : Prop where
  letter : ∃ c rest, cs = c :: rest ∧ c.isAlpha = true
  chars : ∀ c ∈ cs, isSchemeChar c = true ∧ c.toLower = c

theorem lt_of_isAlphanum {c : Char} (h : c.isAlphanum = true) : c.toNat < 128 := by
  rcases (Bool.or_eq_true _ _).mp (h : (c.isAlpha || c.isDigit) = true) with h | h
  · rcases (Bool.or_eq_true _ _).mp (h : (c.isUpper || c.isLower) = true) with h | h
    · have hle : c.toNat ≤ 90 := (of_decide_eq_true h).2
      omega
    · have hle : c.toNat ≤ 122 := of_decide_eq_true ((Bool.and_eq_true _ _).mp h).2
      omega
  · have hle : c.toNat ≤ 57 := of_decide_eq_true ((Bool.and_eq_true _ _).mp h).2
    omega

theorem lt_of_isSchemeChar {c : Char} (h : isSchemeChar c = true) : c.toNat < 128 := by
  simp only [isSchemeChar, Bool.or_eq_true, beq_iff_eq] at h
  rcases h with ((h | rfl) | rfl) | rfl
  · exact lt_of_isAlphanum h
  all_goals decide

/-- What lower case does to the characters of a scheme. -/
theorem isSchemeChar_toLower {c : Char} (h : isSchemeChar c = true) :
    (isSchemeChar c.toLower = true ∧ c.toLower.toLower = c.toLower) ∧
      (c.isAlpha = true → c.toLower.isAlpha = true) :=
  Percent.forall_ascii
    (p := fun c => isSchemeChar c = true → (isSchemeChar c.toLower = true ∧ c.toLower.toLower = c.toLower) ∧
      (c.isAlpha = true → c.toLower.isAlpha = true))
    (by decide) (lt_of_isSchemeChar h) h

theorem scheme?_eq (cs : List Char) : scheme? cs =
    match cs with
    | [] => none
    | c :: _ =>
      if !c.isAlpha then none
      else
        match cs.dropWhile isSchemeChar with
        | ':' :: rest => some ((cs.takeWhile isSchemeChar).map Char.toLower, rest)
        | _ => none :=
  rfl

theorem isScheme_of_scheme? (h : scheme? cs = some (scheme, rest)) : IsScheme scheme := by
  rw [scheme?_eq] at h
  split at h
  · cases h
  rename_i c cs
  split at h
  · cases h
  rename_i halpha
  have halpha : c.isAlpha = true := by simpa using halpha
  have hfirst : isSchemeChar c = true := by simp [isSchemeChar, Char.isAlphanum, halpha]
  split at h
  · cases h
    rw [List.takeWhile_cons_of_pos hfirst]
    refine ⟨⟨c.toLower, _, rfl, (isSchemeChar_toLower hfirst).2 halpha⟩, fun x hx => ?_⟩
    obtain ⟨d, hd, rfl⟩ := List.mem_map.mp hx
    rcases List.mem_cons.mp hd with rfl | hd
    · exact (isSchemeChar_toLower hfirst).1
    · exact (isSchemeChar_toLower (List.all_eq_true.mp List.all_takeWhile d hd)).1
  · cases h

/-- **A scheme is read back.** -/
theorem scheme?_append (h : IsScheme scheme) (rest : List Char) :
    scheme? (scheme ++ ':' :: rest) = some (scheme, rest) := by
  obtain ⟨⟨c, more, rfl, halpha⟩, hchars⟩ := h
  have hfront : ∀ x ∈ c :: more, isSchemeChar x = true := fun x hx => (hchars x hx).1
  have hback : ∀ x ∈ (':' :: rest).head?, isSchemeChar x = false := by simp [isSchemeChar]
  have hlower : (c :: more).map Char.toLower = c :: more :=
    (List.map_congr_left fun x hx => (hchars x hx).2).trans (List.map_id' _)
  rw [scheme?_eq, dropWhile_append_eq hfront hback, takeWhile_append_eq hfront hback, hlower]
  simp only [List.cons_append, halpha]
  rfl

/-! ## User and password -/

/-- A text in which nothing is left to encode. -/
def IsEncoded (isEncoded : Char → Bool) (cs : List Char) : Prop := ∀ c ∈ cs, isEncoded c = false

theorem isEncoded_encode {isEncoded : Char → Bool} (hspares : Percent.SparesTriples isEncoded)
    (cs : List Char) : IsEncoded isEncoded (Percent.encode isEncoded cs) :=
  fun _ hc => Percent.not_isEncoded_of_mem_encode hspares hc

theorem IsEncoded.encode_eq {isEncoded : Char → Bool} (h : IsEncoded isEncoded cs) :
    Percent.encode isEncoded cs = cs :=
  Percent.encode_eq_self h

theorem IsEncoded.not_mem {isEncoded : Char → Bool} (h : IsEncoded isEncoded cs) {c : Char}
    (hc : isEncoded c = true) : c ∉ cs := by
  intro hmem
  rw [h c hmem] at hc
  cases hc

/-- A text in which blanks and controls are encoded, and the signs too, holds none of them. -/
theorem IsEncoded.clearOf {isEncoded : Char → Bool} {signs : List Char} (h : IsEncoded isEncoded cs)
    (hcontrol : ∀ c, Percent.isControl c = true → isEncoded c = true)
    (hsigns : (' ' :: signs).all isEncoded = true) : ∀ c ∈ cs, ClearOf signs c := by
  intro c hc
  have hsigns := List.all_eq_true.mp hsigns
  refine ⟨visible_of_not_isControl ?_ ?_, fun hmem => h.not_mem (hsigns c (List.mem_cons_of_mem _ hmem)) hc⟩
  · by_contra hcontrolled
    exact h.not_mem (hcontrol c (by simpa using hcontrolled)) hc
  · rintro rfl
    exact h.not_mem (hsigns ' ' List.mem_cons_self) hc

/-- The name of a user and a password that were read. -/
structure IsUserinfo (username : List Char) (password : Option (List Char)) : Prop where
  username : IsEncoded Percent.notInUserinfo username
  password : ∀ p ∈ password, p ≠ [] ∧ IsEncoded Percent.notInUserinfo p

theorem isUserinfo_readUserinfo (cs : List Char) : IsUserinfo (readUserinfo cs).1 (readUserinfo cs).2 := by
  refine ⟨isEncoded_encode Percent.sparesTriples_notInUserinfo _, fun p hp => ?_⟩
  unfold readUserinfo at hp
  dsimp only at hp
  split at hp
  · cases hp
  · rename_i hne
    cases hp
    exact ⟨Percent.encode_ne_nil (by simpa using hne), isEncoded_encode Percent.sparesTriples_notInUserinfo _⟩

/-- What stands in front of the `@`. -/
def infoText (username : List Char) (password : Option (List Char)) : List Char :=
  username ++ (password.map (':' :: ·)).getD []

/-- **The user and the password are read back.** -/
theorem readUserinfo_infoText {username : List Char} {password : Option (List Char)}
    (h : IsUserinfo username password) : readUserinfo (infoText username password) = (username, password) := by
  obtain ⟨husername, hpassword⟩ := h
  have hfront : ∀ c ∈ username, decide (c ≠ ':') = true := fun c hc =>
    decide_eq_true fun heq => husername.not_mem (by decide : Percent.notInUserinfo ':' = true) (heq ▸ hc)
  have hback : ∀ c ∈ ((password.map (':' :: ·)).getD []).head?, decide (c ≠ ':') = false := by
    cases password <;> simp
  unfold readUserinfo infoText
  dsimp only
  rw [takeWhile_append_eq hfront hback, dropWhile_append_eq hfront hback, husername.encode_eq]
  cases password with
  | none => rfl
  | some p =>
    obtain ⟨hne, hencoded⟩ := hpassword p rfl
    have hempty : p.isEmpty = false := by simpa using hne
    simp [hempty, hencoded.encode_eq]

/-- What is written for a user and a password. -/
theorem userinfoText_eq (u : Url) : u.userinfoText =
    if u.hasUserinfo then infoText u.username u.password ++ ['@'] else [] := by
  unfold userinfoText infoText hasUserinfo
  cases u.password with
  | some p => simp
  | none => cases hname : u.username <;> simp

/-- **The last `@` parts the user from the host.** -/
theorem splitAtLast_userinfoText {u : Url} {host : List Char} (h : '@' ∉ host) :
    (splitAtLast (u.userinfoText ++ host)).getD ([], u.userinfoText ++ host) =
      (infoText u.username u.password, host) := by
  rw [userinfoText_eq]
  by_cases huser : u.hasUserinfo = true
  · obtain ⟨hhost, hinfo⟩ := Punycode.splitAtLast_append (infoText u.username u.password) h
    rw [if_pos huser, List.append_assoc, List.singleton_append]
    unfold splitAtLast
    rw [if_pos (by simp), hhost, hinfo, Option.getD_some]
  · have hnone : u.username = [] ∧ u.password = none := by
      simpa [hasUserinfo] using huser
    rw [if_neg huser, List.nil_append, hnone.1, hnone.2]
    unfold splitAtLast
    rw [if_neg (by simpa using h), Option.getD_none]
    rfl

/-! ## Host and port -/

/-- What follows the host: a port, or the end of the authority. -/
def EndsHost (kind : SchemeKind) (cs : List Char) : Prop :=
  ∀ c ∈ cs.head?, c = ':' ∨ endsAuthority kind c = true

/-- The signs that end an authority. -/
def endSigns : List Char := ['#', '/', '?', '\\']

theorem endsAuthority_of_clearOf {c : Char} (h : ClearOf endSigns c) (kind : SchemeKind) :
    endsAuthority kind c = false := by
  have hslash : c ≠ '/' := h.ne (by decide)
  have hquery : c ≠ '?' := h.ne (by decide)
  have hhash : c ≠ '#' := h.ne (by decide)
  have hback : c ≠ '\\' := h.ne (by decide)
  simp [endsAuthority, hslash, hquery, hhash, hback]

theorem splitHost_of_endsHost (h : EndsHost kind rest) : splitHost kind false rest = ([], rest) := by
  cases rest with
  | nil => rfl
  | cons c rest =>
    rw [splitHost, if_pos]
    rcases h c rfl with rfl | hc
    · rfl
    · simp [hc]

/-- A character that does not end the host belongs to it. -/
theorem splitHost_cons {c : Char} {inBrackets : Bool} (hend : endsAuthority kind c = false)
    (hcolon : c ≠ ':' ∨ inBrackets = true) (rest : List Char) :
    splitHost kind inBrackets (c :: rest) =
      (c :: (splitHost kind ((inBrackets || c == '[') && c != ']') rest).1,
        (splitHost kind ((inBrackets || c == '[') && c != ']') rest).2) := by
  rw [splitHost, if_neg]
  rcases hcolon with hcolon | rfl
  · simp [hcolon, hend]
  · simp [hend]

theorem splitHost_bare (hchar : ∀ c ∈ cs, ClearOf nameSigns c) (h : EndsHost kind rest) :
    splitHost kind false (cs ++ rest) = (cs, rest) := by
  induction cs with
  | nil => exact splitHost_of_endsHost h
  | cons c cs ih =>
    have hc := hchar c List.mem_cons_self
    have hcolon : c ≠ ':' := hc.ne (by decide)
    have hopening : c ≠ '[' := hc.ne (by decide)
    have hstep : ((false || c == '[') && c != ']') = false := by simp [hopening]
    rw [List.cons_append, splitHost_cons (endsAuthority_of_clearOf (hc.mono (by decide)) kind)
      (Or.inl hcolon), hstep, ih fun x hx => hchar x (List.mem_cons_of_mem _ hx)]

/-- Between brackets a colon does not end the host. -/
theorem splitHost_bracketed (hchar : ∀ c ∈ cs, ClearOf bracketSigns c) (h : EndsHost kind rest) :
    splitHost kind true (cs ++ ']' :: rest) = (cs ++ [']'], rest) := by
  induction cs with
  | nil =>
    have hstep : ((true || ']' == '[') && ']' != ']') = false := by decide
    rw [List.nil_append, splitHost_cons (endsAuthority_of_clearOf (by decide) kind) (Or.inr rfl), hstep,
      splitHost_of_endsHost h, List.nil_append]
  | cons c cs ih =>
    have hc := hchar c List.mem_cons_self
    have hclosing : c ≠ ']' := hc.ne (by decide)
    have hstep : ((true || c == '[') && c != ']') = true := by simp [hclosing]
    rw [List.cons_append, splitHost_cons (endsAuthority_of_clearOf (hc.mono (by decide)) kind) (Or.inr rfl), hstep,
      ih fun x hx => hchar x (List.mem_cons_of_mem _ hx), List.cons_append]

/-- **The text of a host is split off.** -/
theorem splitHost_append (htext : IsHostText cs) (h : EndsHost kind rest) :
    splitHost kind false (cs ++ rest) = (cs, rest) := by
  cases htext with
  | bare hne hchar => exact splitHost_bare hchar h
  | @bracketed inner hchar =>
    have hstep : ((false || '[' == '[') && '[' != ']') = true := by decide
    rw [List.append_assoc, List.cons_append, splitHost_cons (endsAuthority_of_clearOf (by decide) kind)
      (Or.inl (by decide)), hstep, List.singleton_append, splitHost_bracketed hchar h, List.cons_append]

/-- A port that was read. -/
structure IsPort (scheme : List Char) (port : Nat) : Prop where
  small : port ≤ 65535
  notDefault : defaultPort? scheme ≠ some port

theorem isPort_of_readPort? {port : Option Nat} (h : readPort? scheme cs = .ok (port, rest)) :
    ∀ p ∈ port, IsPort scheme p := by
  unfold readPort? at h
  split at h
  · unfold readPort at h
    dsimp only at h
    -- What follows the digits does not matter.
    split at h <;>
    · split at h
      · cases h
      rename_i hbounds
      cases h
      intro p hp
      split at hp
      · cases hp
      · rename_i hwritten
        cases hp
        rw [not_or] at hbounds hwritten
        exact ⟨by omega, hwritten.2⟩
  · cases h
    simp

/-- What follows an authority: a path, a query or a fragment. -/
def EndsPort (cs : List Char) : Prop := ∀ c ∈ cs.head?, c = '/' ∨ c = '?' ∨ c = '#'

/-- The port with its colon. -/
def portText (port : Option Nat) : List Char := (port.map fun p => ':' :: decimal p).getD []

theorem EndsPort.endsAuthority (h : EndsPort rest) {c : Char} (hc : c ∈ rest.head?) :
    endsAuthority kind c = true := by
  rcases h c hc with rfl | rfl | rfl <;> simp [Url.endsAuthority]

theorem EndsPort.endsHost (h : EndsPort rest) (port : Option Nat) : EndsHost kind (portText port ++ rest) := by
  cases port with
  | none => exact fun c hc => Or.inr (h.endsAuthority hc)
  | some p =>
    intro c hc
    cases hc
    exact Or.inl rfl

/-- **The port is read back.** -/
theorem readPort?_portText {port : Option Nat} (hport : ∀ p ∈ port, IsPort scheme p) (h : EndsPort rest) :
    readPort? scheme (portText port ++ rest) = .ok (port, rest) := by
  cases port with
  | none =>
    change readPort? scheme rest = _
    unfold readPort?
    split
    · rename_i more
      rcases h ':' rfl with heq | heq | heq <;> cases heq
    · rfl
  | some p =>
    obtain ⟨hsmall, hdefault⟩ := hport p rfl
    have hfront : ∀ c ∈ decimal p, c.isDigit = true := fun c hc => isDigit_of_mem_decimal hc
    have hback : ∀ c ∈ rest.head?, c.isDigit = false := by
      intro c hc
      rcases h c hc with rfl | rfl | rfl <;> decide
    have hne : (decimal p).isEmpty = false := by simpa using decimal_ne_nil p
    change readPort scheme (decimal p ++ rest) = _
    unfold readPort
    dsimp only
    rw [takeWhile_append_eq hfront hback, dropWhile_append_eq hfront hback, ofDigits_decimal, if_neg]
    · simp [hne, hdefault]
    · rw [not_or]
      refine ⟨by omega, ?_⟩
      cases rest with
      | nil => decide
      | cons c rest => rcases h c rfl with rfl | rfl | rfl <;> simp

/-! ## Query and fragment -/

/-- A query and a fragment that were read. -/
structure IsTail (kind : SchemeKind) (query fragment : Option (List Char)) : Prop where
  query : ∀ q ∈ query, IsEncoded (Percent.notInQuery kind.isSpecial) q
  fragment : ∀ f ∈ fragment, IsEncoded Percent.notInFragment f

theorem isTail_readTail (kind : SchemeKind) (cs : List Char) :
    IsTail kind (readTail kind cs).1 (readTail kind cs).2 := by
  have hquery : ∀ cs, IsEncoded (Percent.notInQuery kind.isSpecial)
      (Percent.encode (Percent.notInQuery kind.isSpecial) cs) :=
    isEncoded_encode (Percent.sparesTriples_notInQuery _)
  have hfragment : ∀ cs, IsEncoded Percent.notInFragment (Percent.encode Percent.notInFragment cs) :=
    isEncoded_encode Percent.sparesTriples_notInFragment
  unfold readTail
  split
  · dsimp only
    split
    · exact ⟨by simp [hquery], by simp [hfragment]⟩
    · exact ⟨by simp [hquery], by simp⟩
  · exact ⟨by simp, by simp [hfragment]⟩
  · exact ⟨by simp, by simp⟩

/-- The query and the fragment with their signs. -/
def tailText (query fragment : Option (List Char)) : List Char :=
  (query.map ('?' :: ·)).getD [] ++ (fragment.map ('#' :: ·)).getD []

/-- **The query and the fragment are read back.** -/
theorem readTail_tailText {query fragment : Option (List Char)} (h : IsTail kind query fragment) :
    readTail kind (tailText query fragment) = (query, fragment) := by
  obtain ⟨hquery, hfragment⟩ := h
  have hhash : Percent.notInQuery kind.isSpecial '#' = true := by simp [Percent.notInQuery]
  cases query with
  | none =>
    cases fragment with
    | none => rfl
    | some f => exact congrArg (fun f => (none, some f)) (hfragment f rfl).encode_eq
  | some q =>
    have hfront : ∀ c ∈ q, decide (c ≠ '#') = true := fun c hc =>
      decide_eq_true fun heq => (hquery q rfl).not_mem hhash (heq ▸ hc)
    have hback : ∀ c ∈ ((fragment.map ('#' :: ·)).getD []).head?, decide (c ≠ '#') = false := by
      cases fragment <;> simp
    unfold tailText readTail
    simp only [Option.map_some, Option.getD_some, List.cons_append]
    rw [takeWhile_append_eq hfront hback, dropWhile_append_eq hfront hback, (hquery q rfl).encode_eq]
    cases fragment with
    | none => rfl
    | some f => exact congrArg (fun f => (some q, some f)) (hfragment f rfl).encode_eq

end Checkout.Url
