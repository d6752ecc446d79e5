import Checkout.Credentials.Staging
import Checkout.Redaction

/-!
# URLs that differ in the user only

Two texts are the same but for the user if they are equal, or if both are URLs with a user or a password
that are equal otherwise. What is shown of such URLs is the same, and so is their host.

The reader is needed for one thing: `redact` shows a URL as it is if its user cannot be replaced, which
happens to URLs without a host and to those of files. The reader refuses a user without a host and
reads none in the URLs of files.

Results:
* `host_of_hasUserinfo`: a URL that was read and names a user has a host and is not one of files;
* `SameButUser.redact_eq`, `SameButUser.hostOf_eq`: what does not tell such URLs apart.
-/

namespace Checkout

namespace Url

variable {scheme cs : List Char} {kind : SchemeKind} {u : Url}

theorem bind_eq_ok {ε α β : Type} {x : Except ε α} {f : α → Except ε β} {b : β}
    (h : (x >>= f) = .ok b) : ∃ a, x = .ok a ∧ f a = .ok b := by
  cases x with
  | error e => cases h
  | ok a => exact ⟨a, rfl, h⟩

theorem map_eq_ok {ε α β : Type} {x : Except ε α} {f : α → β} {b : β} (h : x.map f = .ok b) :
    ∃ a, x = .ok a ∧ f a = b := by
  cases x with
  | error e => cases h
  | ok a => exact ⟨a, rfl, Except.ok.inj h⟩

/-- An authority that was read has a host if it has a user. -/
theorem readAuthority_eq_ok (h : readAuthority scheme kind cs = .ok u) :
    u.scheme = scheme ∧ (u.hasUserinfo = true → u.host.isSome = true) := by
  unfold readAuthority at h
  dsimp only at h
  split at h
  · cases h
  obtain ⟨host, -, h⟩ := bind_eq_ok h
  split at h
  · cases h
  obtain ⟨port, -, h⟩ := bind_eq_ok h
  split at h
  · cases h
  · rename_i hnone
    cases h
    refine ⟨rfl, fun huser => ?_⟩
    unfold hasUserinfo at huser
    dsimp only at huser ⊢
    cases host with
    | some host => rfl
    | none =>
      refine absurd ⟨rfl, ?_⟩ hnone
      simpa using huser

theorem readFile_eq_ok (h : readFile cs = .ok u) : u.hasUserinfo = false := by
  unfold readFile at h
  obtain ⟨found, -, h⟩ := bind_eq_ok h
  cases h
  rfl

theorem readPlain_hasUserinfo (scheme cs : List Char) : (readPlain scheme cs).hasUserinfo = false := rfl

/-- **A user needs a host**, and there is none in the URLs of files. -/
theorem host_of_hasUserinfo {text : String} (h : ofText text = .ok u) (huser : u.hasUserinfo = true) :
    u.host.isSome = true ∧ SchemeKind.ofScheme u.scheme ≠ .file := by
  unfold ofText at h
  cases hs : scheme? (clean text.toList) with
  | none =>
    rw [hs] at h
    cases h
  | some found =>
    obtain ⟨scheme, rest⟩ := found
    rw [hs] at h
    dsimp only at h
    cases hk : SchemeKind.ofScheme scheme with
    | file =>
      rw [hk] at h
      rw [readFile_eq_ok h] at huser
      cases huser
    | special =>
      rw [hk] at h
      obtain ⟨hscheme, hhost⟩ := readAuthority_eq_ok h
      rw [hscheme, hk]
      exact ⟨hhost huser, by decide⟩
    | other =>
      rw [hk] at h
      dsimp only at h
      split at h
      · obtain ⟨hscheme, hhost⟩ := readAuthority_eq_ok h
        rw [hscheme, hk]
        exact ⟨hhost huser, by decide⟩
      · cases h
        rw [readPlain_hasUserinfo] at huser
        cases huser

/-- URLs that are equal but for the user and the password. -/
def EqualButUser (u v : Url) : Prop := { u with username := v.username, password := v.password } = v

theorem EqualButUser.hostText_eq {v : Url} (h : EqualButUser u v) : u.hostText = v.hostText := by
  rw [← h]
  rfl

/-- Whoever the user was, the URL with another one is the same. -/
theorem EqualButUser.withUser?_eq {v : Url} (h : EqualButUser u v) (user : List Char) :
    u.withUser? user = v.withUser? user := by
  rw [← h]
  rfl

end Url

/-! ## Texts -/

/-- Two texts are equal, or they are URLs with a user or a password that are equal otherwise. -/
inductive SameButUser : String → String → Prop
  | refl (text : String) : SameButUser text text
  | user {a b : String} {u v : Url} : Url.ofText a = .ok u → Url.ofText b = .ok v →
      u.hasUserinfo = true → v.hasUserinfo = true → u.EqualButUser v → SameButUser a b

namespace SameButUser

variable {a b : String}

/-- What is shown of a URL with a user. -/
theorem redact_of_hasUserinfo {text : String} {u : Url} (h : Url.ofText text = .ok u)
    (huser : u.hasUserinfo = true) :
    ∃ v, u.withUser? redactedUser = some v ∧ redact text = String.ofList v.text := by
  obtain ⟨hhost, hscheme⟩ := Url.host_of_hasUserinfo h huser
  have hwith : u.withUser? redactedUser = some { u with
      username := Percent.encode Percent.notInUserinfo redactedUser, password := none } := by
    unfold Url.withUser?
    rw [if_neg]
    rintro (hnone | hfile)
    · rw [Option.isNone_iff_eq_none.mp hnone] at hhost
      cases hhost
    · exact hscheme hfile
  refine ⟨_, hwith, ?_⟩
  unfold redact
  rw [h]
  dsimp only
  rw [huser, if_neg (by decide), hwith]

/-- **Nothing of the user is shown.** -/
theorem redact_eq (h : SameButUser a b) : redact a = redact b := by
  cases h with
  | refl => rfl
  | user ha hb hua hub heq =>
    obtain ⟨v, hv, hshown⟩ := redact_of_hasUserinfo ha hua
    obtain ⟨w, hw, hshown'⟩ := redact_of_hasUserinfo hb hub
    rw [heq.withUser?_eq, hw] at hv
    cases hv
    rw [hshown, hshown']

theorem hostOf_eq (h : SameButUser a b) : Credentials.hostOf a = Credentials.hostOf b := by
  cases h with
  | refl => rfl
  | user ha hb _ _ heq =>
    unfold Credentials.hostOf
    rw [ha, hb]
    exact congrArg (fun cs => Except.ok (String.ofList cs)) heq.hostText_eq

/-- The empty text is no URL. -/
theorem eq_empty_iff (h : SameButUser a b) : a = "" ↔ b = "" := by
  have hempty : ∀ {text : String} {u : Url}, Url.ofText text = .ok u → text ≠ "" := by
    rintro _ u h rfl
    cases h
  cases h with
  | refl => exact Iff.rfl
  | user ha hb _ _ _ => exact ⟨fun h => absurd h (hempty ha), fun h => absurd h (hempty hb)⟩

end SameButUser

end Checkout
