import Checkout.Credentials.Staging
import Checkout.Proofs.FileSystem.Pathname
import Checkout.Proofs.Text.ByteString
import Mathlib.Algebra.Order.BigOperators.Group.List
import Mathlib.Algebra.Order.Group.Nat

/-!
# The command that uses the keys

The command is a text with an option for each key and one for the known hosts, and a shell reads it. A text
without quotes and other signs of its own it takes apart at the blanks. The path names are put in as they are
shown and nothing is quoted. So the shell reads the options that are meant if each of the path names is a text
without blanks and signs. A blank makes two words of one; what a shell does with its signs is left out.

Results:
* `shellWords_append_cons`, `flatten_shellWords`: what a shell reads of a text without signs;
* `sshCommand_eq`: the command and its options;
* `readWords_keyCommand_iff`: when a shell that merely takes the command apart reads what is meant.
-/

namespace Checkout.Credentials

open ByteString (ofText)

/-! ## Words -/

/-- A shell takes a text apart at these characters. -/
def isShellBlank (c : Char) : Bool := c = ' ' || c = '\t' || c = '\n'

/-- The words of a text in which nothing is quoted. -/
def shellWords (cs : List Char) : List (List Char) := (cs.splitOnP isShellBlank).filter (· ≠ [])

/-- The words of a command as a program gets to see them. -/
def splitWords (command : String) : List ByteString :=
  (shellWords command.toList).map fun word => ofText (String.ofList word)

/-- The signs of a shell: operators, quotes, what begins an expansion, a pattern or a comment, and what stands
for a home directory. -/
def isShellSign (c : Char) : Bool :=
  ['|', '&', ';', '<', '>', '(', ')', '$', '\x60', '\x5c', '\x22', '\x27', '*', '?', '[', '#', '~'].contains c

/-- The words of a command that a shell merely takes apart. There are none for a command with signs in it,
since they may do anything. -/
def readWords (command : String) : Option (List ByteString) :=
  if command.toList.any isShellSign then none else some (splitWords command)

section Words

variable {front back cs : List Char} {c : Char}

/-- **Words on both sides of a blank.** -/
theorem shellWords_append_cons (hc : isShellBlank c = true) (front back : List Char) :
    shellWords (front ++ c :: back) = shellWords front ++ shellWords back := by
  unfold shellWords
  rw [List.splitOnP_append_cons front back hc, List.filter_append]

theorem shellWords_of_unblank (hne : cs ≠ []) (h : cs.any isShellBlank = false) : shellWords cs = [cs] := by
  unfold shellWords
  rw [List.splitOnP_eq_singleton fun c hc => by simpa using List.any_eq_false.mp h c hc]
  simp [hne]

theorem any_isShellBlank_filter (cs : List Char) :
    (cs.filter fun c => !isShellBlank c).any isShellBlank = false :=
  List.any_eq_false.mpr fun _ hc => by simpa using (List.mem_filter.mp hc).2

theorem flatten_splitOnP {α : Type} (p : α → Bool) (xs : List α) :
    (xs.splitOnP p).flatten = xs.filter (fun x => !p x) := by
  induction xs with
  | nil => simp [List.splitOnP_nil]
  | cons x xs ih =>
    rw [List.splitOnP_cons_eq_if_modifyHead]
    obtain ⟨first, more, hsplit⟩ := List.exists_cons_of_ne_nil (List.splitOnP_ne_nil p xs)
    rw [hsplit] at ih ⊢
    cases hx : p x with
    | true => simpa [hx] using ih
    | false => simpa [hx] using ih

/-- **Nothing but blanks is lost.** -/
theorem flatten_shellWords (cs : List Char) :
    (shellWords cs).flatten = cs.filter (fun c => !isShellBlank c) := by
  rw [← flatten_splitOnP]
  exact List.flatten_filter_ne_nil

theorem shellWords_ne_nil (hc : c ∈ cs) (hblank : isShellBlank c = false) : shellWords cs ≠ [] := by
  intro hnil
  have hflat := flatten_shellWords cs
  rw [hnil, List.flatten_nil] at hflat
  have hmem : c ∈ cs.filter fun c => !isShellBlank c := List.mem_filter.mpr ⟨hc, by simp [hblank]⟩
  rw [← hflat] at hmem
  cases hmem

end Words

/-! ## Path names in a text -/

/-- The path name is a text without blanks. -/
def OneWord (path : ByteString) : Prop :=
  ∃ text : String, path = text ∧ text.toList.any isShellBlank = false

/-- **A path name that is shown** behind a text without blanks is the word that is meant just if there are no
blanks in it either. -/
theorem splitWords_append_shown_iff {stem : String} {path : ByteString}
    (hstem : stem.toList.any isShellBlank = false) (hne : stem ++ path.shown ≠ "") :
    splitWords (stem ++ path.shown) = [ofText stem ++ path] ↔ OneWord path := by
  constructor
  · intro h
    obtain ⟨word, hword, heq⟩ := List.map_eq_singleton_iff.mp h
    -- The only word is all that is no blank, so the path name is what is no blank in the text that shows it.
    have hflat := flatten_shellWords (stem ++ path.shown).toList
    have hkept : stem.toList.filter (fun c => !isShellBlank c) = stem.toList :=
      List.filter_eq_self.mpr fun c hc => by simpa using List.any_eq_false.mp hstem c hc
    rw [hword, List.flatten_singleton, String.toList_append, List.filter_append, hkept] at hflat
    rw [hflat, String.ofList_append, String.ofList_toList, ByteString.ofText_append] at heq
    refine ⟨String.ofList (path.shown.toList.filter fun c => !isShellBlank c), ?_, ?_⟩
    · exact ByteString.toList_inj.mp (List.append_cancel_left (ByteString.toList_inj.mpr heq.symm :))
    · rw [String.toList_ofList]
      exact any_isShellBlank_filter _
  · rintro ⟨text, rfl, htext⟩
    rw [ByteString.shown_ofText] at hne ⊢
    have hwhole : (stem ++ text).toList.any isShellBlank = false := by
      rw [String.toList_append, List.any_append, hstem, htext, Bool.false_or]
    unfold splitWords
    rw [shellWords_of_unblank (by simpa using hne) hwhole]
    simp [ByteString.ofText_append]

/-- A shell reads the path name as a whole: it is a text without blanks and signs. -/
def ReadWhole (path : ByteString) : Prop :=
  ∃ text : String, path = text ∧ text.toList.any isShellBlank = false ∧ text.toList.any isShellSign = false

theorem readWhole_iff {path : ByteString} :
    ReadWhole path ↔ OneWord path ∧ path.shown.toList.any isShellSign = false := by
  constructor
  · rintro ⟨text, rfl, hblanks, hsigns⟩
    rw [ByteString.shown_ofText]
    exact ⟨⟨text, rfl, hblanks⟩, hsigns⟩
  · rintro ⟨⟨text, rfl, hblanks⟩, hsigns⟩
    rw [ByteString.shown_ofText] at hsigns
    exact ⟨text, rfl, hblanks, hsigns⟩

/-! ## Options -/

/-- An option of the command: a private key, or the known hosts. -/
inductive KeyOption where
  | identity (name : ByteString)
  | knownHosts

namespace KeyOption

/-- The name of the staged file that the option is about. -/
def name : KeyOption → ByteString
  | identity name => name
  | knownHosts => "known_hosts"

def flag : KeyOption → String
  | identity _ => "-i"
  | knownHosts => "-o"

/-- What stands in one word with the path name. -/
def stem : KeyOption → String
  | identity _ => ""
  | knownHosts => "UserKnownHostsFile="

theorem flag_unblank : ∀ o : KeyOption, o.flag.toList.any isShellBlank = false
  | identity _ => (by decide +kernel : "-i".toList.any isShellBlank = false)
  | knownHosts => (by decide +kernel : "-o".toList.any isShellBlank = false)

theorem stem_unblank : ∀ o : KeyOption, o.stem.toList.any isShellBlank = false
  | identity _ => (by decide +kernel : "".toList.any isShellBlank = false)
  | knownHosts => (by decide +kernel : "UserKnownHostsFile=".toList.any isShellBlank = false)

theorem flag_unsigned : ∀ o : KeyOption, o.flag.toList.any isShellSign = false
  | identity _ => (by decide +kernel : "-i".toList.any isShellSign = false)
  | knownHosts => (by decide +kernel : "-o".toList.any isShellSign = false)

theorem stem_unsigned : ∀ o : KeyOption, o.stem.toList.any isShellSign = false
  | identity _ => (by decide +kernel : "".toList.any isShellSign = false)
  | knownHosts => (by decide +kernel : "UserKnownHostsFile=".toList.any isShellSign = false)

variable (destination : ByteString) (o : KeyOption)

/-- The path name of the staged file. -/
def path : ByteString := Pathname.join destination o.name

/-- The option as it stands in the command. -/
def text : String := " " ++ o.flag ++ " " ++ o.stem ++ (o.path destination).shown

/-- The words that are meant. -/
def words : List ByteString := [ofText o.flag, ofText o.stem ++ o.path destination]

end KeyOption

/-- The command with some options. -/
def keyCommand (destination : ByteString) (options : List KeyOption) : String :=
  "ssh" ++ String.join (options.map (·.text destination))

/-- The words of the command that are meant. -/
def keyWords (destination : ByteString) (options : List KeyOption) : List ByteString :=
  ofText "ssh" :: options.flatMap (·.words destination)

/-- The options of the command that uses the keys. -/
def sshOptions (names : List ByteString) (hasKnownHosts : Bool) : List KeyOption :=
  (names.filter isKeyName).map .identity ++ if hasKnownHosts then [.knownHosts] else []

/-- **The command that uses the keys** and its options. -/
theorem sshCommand_eq (destination : ByteString) (names : List ByteString) (hasKnownHosts : Bool) :
    sshCommand destination names hasKnownHosts =
      keyCommand destination (sshOptions names hasKnownHosts) := by
  unfold sshCommand keyCommand sshOptions
  rw [List.map_append, String.join_append, List.map_map, String.append_assoc]
  cases hasKnownHosts <;> rfl

section Reading

variable {destination : ByteString} {options : List KeyOption}

/-- What a shell reads of a command with options, behind whatever stands in front of them. -/
theorem shellWords_append_options (front : List Char) :
    shellWords (front ++ (String.join (options.map (·.text destination))).toList) =
      shellWords front ++ options.flatMap fun o =>
        o.flag.toList :: shellWords (o.stem ++ (o.path destination).shown).toList := by
  induction options generalizing front with
  | nil => simp
  | cons o options ih =>
    have hflag : shellWords o.flag.toList = [o.flag.toList] :=
      shellWords_of_unblank (by cases o <;> simp [KeyOption.flag]) o.flag_unblank
    have htext : front ++ (String.join ((o :: options).map (·.text destination))).toList =
        front ++ ' ' :: (o.flag.toList ++ ' ' :: ((o.stem ++ (o.path destination).shown).toList ++
          (String.join (options.map (·.text destination))).toList)) := by
      simp [KeyOption.text]
    rw [htext, shellWords_append_cons rfl, shellWords_append_cons rfl, ih, hflag]
    simp

/-- Lists that are put together from parts, of which the ones are not shorter than the others, are the same
only if the parts are. -/
theorem eq_of_flatMap_eq {α β : Type} {f g : α → List β} {xs : List α}
    (hle : ∀ x ∈ xs, (g x).length ≤ (f x).length) (heq : xs.flatMap f = xs.flatMap g) :
    ∀ x ∈ xs, f x = g x := by
  induction xs with
  | nil => exact fun x hx => by cases hx
  | cons x xs ih =>
    have hrest : ∀ y ∈ xs, (g y).length ≤ (f y).length := fun y hy => hle y (List.mem_cons_of_mem x hy)
    have hshort : (xs.flatMap g).length ≤ (xs.flatMap f).length := by
      rw [List.length_flatMap, List.length_flatMap]
      exact List.sum_le_sum hrest
    have hfirst := hle x List.mem_cons_self
    have hlength := congrArg List.length heq
    simp only [List.flatMap_cons, List.length_append] at heq hlength
    obtain ⟨hx, hxs⟩ := List.append_inj heq (by omega)
    exact List.forall_mem_cons.mpr ⟨hx, ih hrest hxs⟩

/-- The path names of the staged keys have a point in them. -/
theorem KeyOption.point_mem_path {dir : ByteString} {o : KeyOption} (h : Pathname.isAbsolute o.name = false) :
    0x2E ∈ (o.path (Pathname.join dir ".ssh")).toList :=
  Pathname.mem_join_left h (Pathname.mem_join_right (by decide))

/-- A path name with a point is shown with one. -/
theorem splitWords_append_shown_ne_nil {path : ByteString} (hpoint : 0x2E ∈ path.toList) (stem : String) :
    splitWords (stem ++ path.shown) ≠ [] := by
  have hmem : '.' ∈ path.shown.toList := Text.ofNat_mem_decodeLossy (by decide) hpoint
  have hword : shellWords (stem ++ path.shown).toList ≠ [] :=
    shellWords_ne_nil (c := '.') (by rw [String.toList_append]; exact List.mem_append_right _ hmem) rfl
  simpa [splitWords] using hword

/-- The command falls into the words that are meant just if no path name has blanks in it. -/
theorem splitWords_keyCommand_iff (hpoint : ∀ o ∈ options, 0x2E ∈ (o.path destination).toList) :
    splitWords (keyCommand destination options) = keyWords destination options ↔
      ∀ o ∈ options, OneWord (o.path destination) := by
  have hread : splitWords (keyCommand destination options) = ofText "ssh" ::
      options.flatMap fun o => ofText o.flag :: splitWords (o.stem ++ (o.path destination).shown) := by
    have hssh : shellWords "ssh".toList = ["ssh".toList] :=
      shellWords_of_unblank (by decide +kernel) (by decide +kernel)
    unfold splitWords keyCommand
    rw [String.toList_append, shellWords_append_options, hssh]
    simp [List.map_flatMap]
  have hoption : ∀ o ∈ options, splitWords (o.stem ++ (o.path destination).shown) =
      [ofText o.stem ++ o.path destination] ↔ OneWord (o.path destination) := by
    intro o ho
    refine splitWords_append_shown_iff o.stem_unblank fun hempty => ?_
    exact splitWords_append_shown_ne_nil (hpoint o ho) o.stem (by rw [hempty]; rfl)
  rw [hread]
  unfold keyWords
  constructor
  · intro h o ho
    -- Each option is read as two words at least, so that none takes up the place of another.
    have hsame := eq_of_flatMap_eq (fun o ho => ?_) (List.cons.inj h).2 o ho
    · exact (hoption o ho).mp (List.cons.inj hsame).2
    · have hpos := List.length_pos_iff.mpr (splitWords_append_shown_ne_nil (hpoint o ho) o.stem)
      simp only [KeyOption.words, List.length_cons, List.length_nil]
      omega
  · intro h
    refine congrArg (ofText "ssh" :: ·) (List.flatMap_congr fun o ho => ?_)
    rw [(hoption o ho).mpr (h o ho)]
    rfl

/-- All signs in the command are those of the path names. -/
theorem any_isShellSign_keyCommand :
    (keyCommand destination options).toList.any isShellSign =
      options.any fun o => (o.path destination).shown.toList.any isShellSign := by
  have hssh : "ssh".toList.any isShellSign = false := by decide +kernel
  have hblank : " ".toList.any isShellSign = false := by decide +kernel
  unfold keyCommand
  rw [String.toList_append, List.any_append, hssh, Bool.false_or]
  induction options with
  | nil => rfl
  | cons o options ih =>
    have htext : (o.text destination).toList.any isShellSign =
        (o.path destination).shown.toList.any isShellSign := by
      unfold KeyOption.text
      simp only [String.toList_append, List.any_append, hblank, o.flag_unsigned, o.stem_unsigned,
        Bool.false_or]
    rw [List.map_cons, String.join_cons, String.toList_append, List.any_append, htext, ih, List.any_cons]

/-- **When a shell that merely takes the command apart reads the options that are meant**: just if it reads
each path name as a whole. -/
theorem readWords_keyCommand_iff (hpoint : ∀ o ∈ options, 0x2E ∈ (o.path destination).toList) :
    readWords (keyCommand destination options) = some (keyWords destination options) ↔
      ∀ o ∈ options, ReadWhole (o.path destination) := by
  have hsplit := splitWords_keyCommand_iff hpoint
  unfold readWords
  rw [any_isShellSign_keyCommand]
  cases hsigns : options.any fun o => (o.path destination).shown.toList.any isShellSign with
  | true =>
    obtain ⟨o, ho, hsign⟩ := List.any_eq_true.mp hsigns
    refine iff_of_false (by simp) fun h => ?_
    rw [(readWhole_iff.mp (h o ho)).2] at hsign
    cases hsign
  | false =>
    have hnone : ∀ o ∈ options, (o.path destination).shown.toList.any isShellSign = false :=
      fun o ho => by simpa using List.any_eq_false.mp hsigns o ho
    simp only [Bool.false_eq_true, if_false, Option.some.injEq, hsplit]
    exact forall₂_congr fun o ho =>
      ⟨fun h => readWhole_iff.mpr ⟨h, hnone o ho⟩, fun h => (readWhole_iff.mp h).1⟩

end Reading

end Checkout.Credentials
