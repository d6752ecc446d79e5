import Checkout.Proofs.Credentials.PrivateDir
import Checkout.Proofs.Text.Utf8
import Checkout.Proofs.Url.Host
import Checkout.Proofs.Url.Percent

/-!
# What a credential store reads

A credential store reads a file line by line. In a line it takes the text up to the first `@` for a user
and a password, splits it at its first colon and decodes both halves; what follows is the host. Staging
writes the user and the password into such a line as they are. So they are read back as they were just if
they hold nothing that the store reads otherwise.

Results:
* `holdsCredential_iff`: which users and passwords are read back;
* `stored_credential_iff`: the same for the file that staging leaves.
-/

namespace Checkout

open Number Text

namespace Credentials

/-! ## Reading a line -/

/-- What a credential store reads in a line. -/
structure StoredCredential where
  username : List UInt8
  password : List UInt8
  host : List Char
  deriving DecidableEq

/-- A text before the first place of a character, and the text after it. -/
def splitFirst (c : Char) (cs : List Char) : List Char × List Char :=
  (cs.takeWhile (· ≠ c), (cs.dropWhile (· ≠ c)).drop 1)

/-- Reads a line as a credential store does. -/
def readStoreLine (line : List Char) : Option StoredCredential :=
  if "https://".toList.isPrefixOf line then
    let rest := line.drop 8
    let (userinfo, host) := splitFirst '@' rest
    let (username, password) := splitFirst ':' userinfo
    if '@' ∈ rest ∧ ':' ∈ userinfo then
      some ⟨Percent.decode username, Percent.decode password, host⟩
    else none
  else none

/-- The text of a credential file is one line, in which a credential store reads a user, a password and a
host. -/
def HoldsCredential (text username password host : List Char) : Prop :=
  ∃ line, '\n' ∉ line ∧ text = line ++ ['\n'] ∧
    readStoreLine line = some ⟨Percent.bytes username, Percent.bytes password, host⟩

/-- A user and a password hold nothing that a credential store reads otherwise. -/
structure Verbatim (username password : List Char) : Prop where
  noBreak : '\n' ∉ username ∧ '\n' ∉ password
  noSign : '@' ∉ username ∧ '@' ∉ password
  noColon : ':' ∉ username
  noTriple : ¬ Percent.HoldsTriple username ∧ ¬ Percent.HoldsTriple password

theorem splitFirst_append {c : Char} {front : List Char} (h : c ∉ front) (back : List Char) :
    splitFirst c (front ++ c :: back) = (front, back) := by
  have hall : ∀ x ∈ front, decide (x ≠ c) = true := by
    intro x hx
    have hne : x ≠ c := fun heq => h (heq ▸ hx)
    simpa using hne
  unfold splitFirst
  rw [List.takeWhile_append_of_pos hall, List.dropWhile_append_of_pos hall]
  simp

theorem readStoreLine_https (rest : List Char) :
    readStoreLine ("https://".toList ++ rest) =
      if '@' ∈ rest ∧ ':' ∈ (splitFirst '@' rest).1 then
        some ⟨Percent.decode (splitFirst ':' (splitFirst '@' rest).1).1,
          Percent.decode (splitFirst ':' (splitFirst '@' rest).1).2, (splitFirst '@' rest).2⟩
      else none := by
  unfold readStoreLine
  rw [if_pos (List.isPrefixOf_iff_prefix.mpr (List.prefix_append _ _))]
  rfl

variable {front back username password host : List Char}

/-- What is read of a line up to its first `@`, and from there on. -/
theorem readStoreLine_append (h : '@' ∉ front) :
    readStoreLine ("https://".toList ++ (front ++ '@' :: back)) =
      if ':' ∈ front then
        some ⟨Percent.decode (splitFirst ':' front).1, Percent.decode (splitFirst ':' front).2, back⟩
      else none := by
  rw [readStoreLine_https, splitFirst_append h]
  by_cases hcolon : ':' ∈ front <;> simp [hcolon]

/-- The line that staging writes, without its end. -/
def line (username password host : List Char) : List Char :=
  "https://".toList ++ (username ++ ':' :: password ++ '@' :: host)

/-- A line that is read back has no other `@`, and no other colon in the user. -/
theorem plain_of_read
    (h : readStoreLine (line username password host) =
      some ⟨Percent.bytes username, Percent.bytes password, host⟩) :
    '@' ∉ username ++ ':' :: password ∧ ':' ∉ username := by
  unfold line at h
  have hsign : '@' ∉ username ++ ':' :: password := by
    intro hmem
    obtain ⟨front, back, heq, hfront⟩ := List.eq_append_cons_of_mem hmem
    rw [heq, List.append_assoc, List.cons_append, readStoreLine_append hfront] at h
    split at h
    · have hlength := congrArg (fun c => (c.map fun x => x.host.length).getD 0) h
      simp at hlength
      omega
    · cases h
  refine ⟨hsign, fun hmem => ?_⟩
  obtain ⟨front, back, rfl, hfront⟩ := List.eq_append_cons_of_mem hmem
  rw [readStoreLine_append hsign, if_pos (by simp), List.append_assoc, List.cons_append,
    splitFirst_append hfront] at h
  have husername : Percent.decode front = Percent.bytes (front ++ ':' :: back) := by
    injection h with h
    injection h
  have hle := (Percent.shrinks front).2.1
  have hlength := congrArg List.length husername
  have hlt := Percent.length_bytes_cons ':' back
  unfold Percent.bytes at hle hlength hlt
  rw [List.flatMap_append, List.length_append] at hlength
  omega

/-- **What is written is read back** just if the user and the password are verbatim. -/
theorem holdsCredential_iff (hhost : '\n' ∉ host) :
    HoldsCredential (line username password host ++ ['\n']) username password host ↔
      Verbatim username password := by
  constructor
  · rintro ⟨written, hbreak, htext, hread⟩
    obtain rfl := List.append_cancel_right htext
    obtain ⟨hsign, hcolon⟩ := plain_of_read hread
    unfold line at hbreak hread
    rw [readStoreLine_append hsign, if_pos (by simp), splitFirst_append hcolon] at hread
    simp only [Option.some.injEq, StoredCredential.mk.injEq, and_true] at hread
    simp only [List.mem_append, List.mem_cons, not_or] at hsign hbreak
    exact ⟨⟨hbreak.2.1.1, hbreak.2.1.2.2⟩, ⟨hsign.1, hsign.2.2⟩, hcolon,
      Percent.decode_eq_iff.mp hread.1, Percent.decode_eq_iff.mp hread.2⟩
  · rintro ⟨hbreak, hsign, hcolon, htriple⟩
    refine ⟨line username password host, ?_, rfl, ?_⟩
    · unfold line
      rw [List.mem_append, not_or]
      exact ⟨by decide, by simp [hbreak, hhost]⟩
    · unfold line
      have hsign' : '@' ∉ username ++ ':' :: password := by simp [hsign]
      rw [readStoreLine_append hsign', if_pos (by simp), splitFirst_append hcolon,
        Percent.decode_eq_iff.mpr htriple.1, Percent.decode_eq_iff.mpr htriple.2]

/-! ## The staged file -/

theorem credentialLine_eq (username password host : String) :
    credentialLine username password host = String.ofList
      (line (trim username).toList (trim password).toList host.toList ++ ['\n']) := by
  rw [← String.toList_inj, String.toList_ofList]
  unfold credentialLine line
  simp only [String.toList_append, toString, List.append_assoc, List.cons_append]
  rfl

variable {ρ : Type} {P : Location} {dir authDir : ByteString} {url user secret : String} {m : Machine ρ}
  {u : Url} {mode : Nat}

/-- The directory holds a user and a password in files, and is no credential store. -/
structure HoldsUser (fs : FileSystem) (here : Location) (authDir : ByteString) (user secret : String) :
    Prop where
  isThere : fs.pathExists here authDir = true
  notStore : ¬ (fs.isFile here (Pathname.join authDir ".git-credentials") = true ∧
    fs.isFile here (Pathname.join authDir ".gitconfig") = true)
  isUser : fs.isFile here (Pathname.join authDir "username") = true ∧
    fs.isFile here (Pathname.join authDir "password") = true
  username : fs.readText here (Pathname.join authDir "username") = .ok user
  password : fs.readText here (Pathname.join authDir "password") = .ok secret

theorem exec_stageBasicAuth_user (h : HoldsUser m.files m.workDir authDir user secret) :
    (stageBasicAuth url authDir dir).exec m = (some <$> stageUser url authDir dir).exec m := by
  have hstore : (m.files.isFile m.workDir (Pathname.join authDir ".git-credentials") &&
      m.files.isFile m.workDir (Pathname.join authDir ".gitconfig")) = false := by
    simpa using h.notStore
  have huser : (m.files.isFile m.workDir (Pathname.join authDir "username") &&
      m.files.isFile m.workDir (Pathname.join authDir "password")) = true := by
    simpa using h.isUser
  unfold stageBasicAuth
  rw [Run.exec_bind_ok (Run.exec_ask _ _), h.isThere, if_neg (by decide)]
  dsimp only
  rw [Run.exec_bind_ok (Run.exec_ask _ _), hstore, if_neg (by decide),
    Run.exec_bind_ok (Run.exec_ask _ _), huser, if_pos rfl]
  rfl

/-- A private file that is written where nothing stands is there, and nothing else has changed. -/
theorem exec_writeFresh {n : Machine ρ} {name : ByteString}
    (hdir : n.files.locate n.workDir dir = .ok (P, .dir mode)) (hname : FileSystem.Ordinary name)
    (hfree : n.files.get? (P ++ [name]) = none) (htakes : Takes n.writeFault dir name)
    (content : List UInt8) :
    ∃ fs, fs = n.files.put (P ++ [name]) (.file content privateFileMode) ∧
      (writePrivate (Pathname.join dir name) content).exec n = (.ok (), { n with files := fs }) ∧
      fs.locate n.workDir dir = .ok (P, .dir mode) ∧
      fs.get? (P ++ [name]) = some (.file content 0o400) ∧
      ∀ l, l ≠ P ++ [name] → fs.get? l = n.files.get? l := by
  have hwrite := exec_writePrivate_of_takes hdir hname (by simp [hfree]) htakes content
  exact ⟨_, rfl, hwrite, FileSystem.locate_put_child hdir (by simp [hfree]),
    FileSystem.get?_put_self (by simp), fun l hl => FileSystem.get?_put_of_ne hl⟩

/-- The bytes of a file in a directory. -/
theorem readBytes_join {fs : FileSystem} {here : Location} {name : ByteString} {content : List UInt8}
    {bits : Nat} (hdir : fs.locate here dir = .ok (P, .dir mode)) (hname : FileSystem.Ordinary name)
    (hfits : FileSystem.Fits dir name) (hfile : fs.get? (P ++ [name]) = some (.file content bits)) :
    fs.readBytes here (Pathname.join dir name) = .ok content := by
  have hlocate := (FileSystem.locate_join_iff hdir hname (by simp [hfile, Entry.isLink])).mpr
    ⟨hfits, rfl, hfile⟩
  unfold FileSystem.readBytes
  rw [hlocate]

/-- A file that holds the bytes of a text is read as that text. -/
theorem readText_of_readBytes {fs : FileSystem} {here : Location} {path : ByteString} {text : String}
    (h : fs.readBytes here path = .ok (encode text)) : fs.readText here path = .ok text := by
  unfold FileSystem.readText
  rw [h]
  simp only [bind, Except.bind, decode?_encode]

/-- **Staging a user** writes two files, if their names fit. -/
theorem exec_stageUser {host : String} (h : HoldsUser m.files m.workDir authDir user secret)
    (hhost : hostOf url = .ok host) (hdir : m.files.locate m.workDir dir = .ok (P, .dir mode))
    (hempty : m.files.below P = []) (hcredentials : Takes m.writeFault dir ".git-credentials")
    (hconfig : Takes m.writeFault dir ".gitconfig") :
    ∃ m', (stageUser url authDir dir).exec m = (.ok (Pathname.join dir ".gitconfig"), m') ∧
      m'.files.readBytes m.workDir (Pathname.join dir ".git-credentials") =
        .ok (encode (credentialLine user secret host)) ∧
      m'.files.readBytes m.workDir (Pathname.join dir ".gitconfig") =
        .ok (encode (helperSection host (Pathname.join dir ".git-credentials").shown)) := by
  have hfree : ∀ name, m.files.get? (P ++ [name]) = none := fun name =>
    FileSystem.get?_eq_none_of_below hempty (FileSystem.isBelow_concat P name)
  -- Nothing but the log has changed when the files are written.
  generalize hn : m.noting
    [⟨.info, .credentials, "Setting up basic auth from username/password files"⟩] = n
  have hfiles : n.files = m.files := by rw [← hn]; rfl
  have hhere : n.workDir = m.workDir := by rw [← hn]; rfl
  have hfault : n.writeFault = m.writeFault := by rw [← hn]; rfl
  rw [← hfiles, ← hhere] at hdir
  rw [← hfault] at hcredentials hconfig
  obtain ⟨first, -, hfirst, hdir', hwritten, hothers⟩ := exec_writeFresh hdir
    (by decide : FileSystem.Ordinary ".git-credentials") (hfiles ▸ hfree _) hcredentials
    (encode (credentialLine user secret host))
  have hfree' : first.get? (P ++ [(".gitconfig" : ByteString)]) = none := by
    rw [hothers _ (by simp), hfiles, hfree]
  obtain ⟨second, -, hsecond, hdir'', hconfigured, hothers'⟩ :=
    exec_writeFresh (n := { n with files := first }) hdir' (by decide : FileSystem.Ordinary ".gitconfig")
      hfree' hconfig (encode (helperSection host (Pathname.join dir ".git-credentials").shown))
  have hstill := hothers' (P ++ [(".git-credentials" : ByteString)]) (by simp)
  have hquery : ∀ name text, m.files.readText m.workDir (Pathname.join authDir name) = .ok text →
      (Run.query fun fs here => fs.readText here (Pathname.join authDir name)).exec n = (.ok text, n) := by
    intro name text hread
    rw [Run.exec_query, hfiles, hhere, hread]
  have hhost' : (Run.ofExcept ((hostOf url).mapError .urlParse) : Run ρ String).exec n =
      (.ok host, n) := by
    rw [hhost]
    rfl
  unfold stageUser
  dsimp only
  rw [Run.exec_bind_ok (Run.exec_write _ _ _ _), hn, Run.exec_bind_ok (hquery _ _ h.username),
    Run.exec_bind_ok (hquery _ _ h.password), Run.exec_bind_ok hhost', Run.exec_bind_ok hfirst,
    Run.exec_bind_ok hsecond, Run.exec_bind_ok (Run.exec_write _ _ _ _)]
  rw [← hhere]
  exact ⟨_, rfl, readBytes_join hdir'' (by decide) hcredentials.1 (hstill.trans hwritten),
    readBytes_join hdir'' (by decide) hconfig.1 hconfigured⟩

/-- **When a staged credential is read back**: staging a user with a password for a URL writes one line
from which a credential store reads the same user and password for the host of the URL, just if the user
and the password are verbatim. The configuration always names that host. -/
theorem stored_credential_iff (hurl : Url.ofText url = .ok u)
    (hauth : HoldsUser m.files m.workDir authDir user secret)
    (hdir : m.files.locate m.workDir dir = .ok (P, .dir mode)) (hempty : m.files.below P = [])
    (hcredentials : Takes m.writeFault dir ".git-credentials")
    (hconfig : Takes m.writeFault dir ".gitconfig") :
    ∃ m' text, (stageBasicAuth url authDir dir).exec m =
        (.ok (some (Pathname.join dir ".gitconfig")), m') ∧
      m'.files.readBytes m.workDir (Pathname.join dir ".gitconfig") = .ok (encode
        (helperSection (String.ofList u.hostText) (Pathname.join dir ".git-credentials").shown)) ∧
      m'.files.readBytes m.workDir (Pathname.join dir ".git-credentials") =
        .ok (encode (String.ofList text)) ∧
      (HoldsCredential text (trim user).toList (trim secret).toList u.hostText ↔
        Verbatim (trim user).toList (trim secret).toList) := by
  have hhost : hostOf url = .ok (String.ofList u.hostText) := by
    unfold hostOf
    rw [hurl]
    rfl
  obtain ⟨m', hexec, hline, hsection⟩ := exec_stageUser hauth hhost hdir hempty hcredentials hconfig
  rw [credentialLine_eq, String.toList_ofList] at hline
  refine ⟨m', _, ?_, hsection, hline, holdsCredential_iff (Url.newline_not_mem_hostText hurl)⟩
  rw [exec_stageBasicAuth_user hauth]
  exact Run.exec_map_ok hexec some

/-- A password with a sign in it is lost: the store takes part of it for the host. -/
theorem stored_credential_lost_of_sign :
    let m : Machine Unit := { Machine.bare () with
      files := ⟨[(["work"], .dir 0o755), (["private"], .dir 0o700), (["auth"], .dir 0o755),
        (["auth", "username"], .file (encode "user") 0o644),
        (["auth", "password"], .file (encode "p@ss\n") 0o644)]⟩ }
    HoldsUser m.files m.workDir "/auth" "user" "p@ss\n" ∧ ∃ m' text,
      (stageBasicAuth "ssh://git.example/x" "/auth" "/private").exec m =
        (.ok (some "/private/.gitconfig"), m') ∧
      m'.files.readBytes m.workDir "/private/.git-credentials" = .ok (encode (String.ofList text)) ∧
      ¬ HoldsCredential text "user".toList "p@ss".toList "git.example".toList := by
  intro m
  have hurl : Url.ofText "ssh://git.example/x" =
      .ok ⟨"ssh".toList, [], none, some (.name "git.example".toList), none, .segments [['x']], none,
        none⟩ := by rfl
  have hauth : HoldsUser m.files m.workDir "/auth" "user" "p@ss\n" :=
    ⟨by rfl, by decide +kernel, ⟨by rfl, by rfl⟩, by rfl, by rfl⟩
  have hdir : m.files.locate m.workDir "/private" = .ok (["private"], .dir 0o700) := by rfl
  have hempty : m.files.below ["private"] = [] := by rfl
  obtain ⟨m', text, hexec, -, hfile, hread⟩ := stored_credential_iff hurl hauth hdir hempty
    ⟨by decide +kernel, rfl⟩ ⟨by decide +kernel, rfl⟩
  refine ⟨hauth, m', text, hexec, hfile, fun hholds => ?_⟩
  have husername : trim "user" = "user" := by decide +kernel
  have hpassword : trim "p@ss\n" = "p@ss" := by decide +kernel
  rw [husername, hpassword] at hread
  exact (hread.mp hholds).noSign.2 (by decide)

end Credentials

end Checkout
