import Checkout.Clone.JsonText
import Checkout.Proofs.Json.Reader
import Checkout.Proofs.Text.Pieces
import Mathlib.Data.List.Basic

/-!
# Objects of texts are read back

What is written for a text is read as this text, whatever characters it has, and what is written for fields as
the object of these fields in the same order. Nothing that is written is a control character.

Results:
* `readChars_jsonChar`: one character is read back;
* `readValue_jsonObject`, `ofText?_jsonObject`: fields are read back;
* `le_toNat_of_mem_jsonObject`: no control character is written.
-/

namespace Checkout

open Number

/-! ## Control characters -/

/-- The number of a control character has four digits, which are no control characters themselves. -/
theorem padded_of_lt {n : Nat} (h : n < 0x20) :
    ∃ a b c d, padded 16 4 n = [a, b, c, d] ∧ digits? 16 [a, b, c, d] = some n ∧
      ∀ x ∈ [a, b, c, d], 0x20 ≤ x.toNat := by
  have hall : ∀ n < 0x20, (padded 16 4 n).length = 4 ∧ digits? 16 (padded 16 4 n) = some n ∧
      (padded 16 4 n).all (0x20 ≤ ·.toNat) = true := by decide +kernel
  obtain ⟨hlength, hread, hplain⟩ := hall n h
  simp only [List.all_eq_true, decide_eq_true_eq] at hplain
  generalize padded 16 4 n = ds at *
  match ds, hlength with
  | [a, b, c, d], _ => exact ⟨a, b, c, d, rfl, hread, hplain⟩

/-- How a character is written: as itself, or behind a backslash by a letter or by its number. -/
inductive Written (c : Char) : List Char → Prop
  | plain : c ≠ '"' → c ≠ '\\' → 0x20 ≤ c.toNat → Written c [c]
  | letter (e : Char) : Json.escaped? e = some c → 0x20 ≤ e.toNat → Written c ['\\', e]
  | number (x y z w : Char) : c.toNat < 0x20 → digits? 16 [x, y, z, w] = some c.toNat →
      (∀ d ∈ [x, y, z, w], 0x20 ≤ d.toNat) → Written c ['\\', 'u', x, y, z, w]

theorem written_jsonChar (c : Char) : Written c (jsonChar c) := by
  unfold jsonChar
  split_ifs with hquote hback hb hf hn hr ht hcontrol
  · exact .letter '"' (congrArg some hquote.symm) (by decide)
  · exact .letter '\\' (congrArg some hback.symm) (by decide)
  · exact .letter 'b' (congrArg some (Char.toNat_inj.mp hb.symm)) (by decide)
  · exact .letter 'f' (congrArg some (Char.toNat_inj.mp hf.symm)) (by decide)
  · exact .letter 'n' (congrArg some hn.symm) (by decide)
  · exact .letter 'r' (congrArg some hr.symm) (by decide)
  · exact .letter 't' (congrArg some ht.symm) (by decide)
  · obtain ⟨x, y, z, w, hdigits, hread, hplain⟩ := padded_of_lt hcontrol
    rw [hdigits]
    exact .number x y z w hcontrol hread hplain
  · exact .plain hquote hback (by omega)

theorem Written.le_toNat {c d : Char} {cs : List Char} (h : Written c cs) (hd : d ∈ cs) : 0x20 ≤ d.toNat := by
  cases h with
  | plain _ _ hplain =>
    rw [List.mem_singleton.mp hd]
    exact hplain
  | letter e _ hletter =>
    simp only [List.mem_cons, List.not_mem_nil, or_false] at hd
    rcases hd with rfl | rfl
    · decide
    · exact hletter
  | number x y z w _ _ hplain =>
    rcases List.mem_cons.mp hd with rfl | hd
    · decide
    · rcases List.mem_cons.mp hd with rfl | hd
      · decide
      · exact hplain d hd

/-! ## Texts -/

namespace Json

/-- **One character is read back.** -/
theorem readChars_written {c : Char} {cs : List Char} (h : Written c cs) (rest : List Char) :
    readChars (cs ++ rest) = before c (readChars rest) := by
  cases h with
  | plain hquote hback hplain => exact readChars_plain hquote hback hplain rest
  | letter e he _ => exact readChars_letter he rest
  | number x y z w hcontrol hread _ => exact readChars_number hread (by omega) rest

/-- **A text is read back** up to its closing quote. -/
theorem readChars_flatMap_jsonChar (cs rest : List Char) :
    readChars (cs.flatMap jsonChar ++ '"' :: rest) = some (cs, rest) := by
  induction cs with
  | nil => exact readChars_quote rest
  | cons c cs ih =>
    rw [List.flatMap_cons, List.append_assoc, readChars_written (written_jsonChar c), ih]
    rfl

/-! ## Objects -/

/-- A field as it is written. -/
def memberText (field : String × String) : List Char :=
  jsonString field.1.toList ++ ':' :: jsonString field.2.toList

/-- The member that a field becomes. -/
def member (field : String × String) : String × Json := (field.1, .string field.2)

theorem jsonObject_eq (fields : List (String × String)) :
    jsonObject fields = '\x7b' :: ([','].intercalate (fields.map memberText) ++ ['\x7d']) := rfl

theorem jsonString_append (cs rest : List Char) :
    jsonString cs ++ rest = '"' :: (cs.flatMap jsonChar ++ '"' :: rest) := by
  simp [jsonString]

theorem memberText_append (field : String × String) (rest : List Char) :
    memberText field ++ rest =
      '"' :: (field.1.toList.flatMap jsonChar ++ '"' :: ':' :: (jsonString field.2.toList ++ rest)) := by
  unfold memberText
  rw [List.append_assoc, jsonString_append, List.cons_append]

/-- Fields begin with a quote. -/
theorem exists_quote {fields : List (String × String)} (h : fields ≠ []) (rest : List Char) :
    ∃ tail, [','].intercalate (fields.map memberText) ++ rest = '"' :: tail := by
  obtain ⟨field, more, rfl⟩ := List.exists_cons_of_ne_nil h
  cases more with
  | nil =>
    rw [List.map_singleton, List.intercalate_singleton, memberText_append]
    exact ⟨_, rfl⟩
  | cons next others =>
    rw [List.map_cons, List.map_cons, List.intercalate_cons_cons, List.append_assoc, List.append_assoc,
      memberText_append]
    exact ⟨_, rfl⟩

theorem skipBlanks_quote (rest : List Char) : skipBlanks ('"' :: rest) = '"' :: rest := rfl

/-- A text as a value is read back. -/
theorem readValue_jsonString (depth : Nat) (text : String) (rest : List Char) :
    readValue (depth + 1) (jsonString text.toList ++ rest) = some (.string text, rest) := by
  rw [jsonString_append, readValue, readChars_flatMap_jsonChar, Option.map_some]
  dsimp only
  rw [String.ofList_toList]

/-- **A field is read back.** -/
theorem readMember_memberText (depth : Nat) (field : String × String) (rest : List Char) :
    readMember (readValue (depth + 1)) (memberText field ++ rest) = some (member field, rest) := by
  have hvalue := readValue_jsonString depth field.2 rest
  rw [jsonString_append] at hvalue
  rw [memberText_append, readMember, readChars_flatMap_jsonChar, jsonString_append]
  show Option.map _ (readValue (depth + 1) ('"' :: _)) = _
  rw [hvalue, Option.map_some, String.ofList_toList]
  rfl

/-- **Fields are read back** up to the closing brace, in as many steps as there are fields. -/
theorem readItems_fields (depth : Nat) {fields : List (String × String)} (hfields : fields ≠ []) {steps : Nat}
    (hsteps : fields.length ≤ steps) (rest : List Char) :
    readItems '\x7d' (readMember (readValue (depth + 1))) steps
      ([','].intercalate (fields.map memberText) ++ '\x7d' :: rest) = some (fields.map member, rest) := by
  induction fields generalizing steps with
  | nil => exact absurd rfl hfields
  | cons field more ih =>
    obtain ⟨steps, rfl⟩ : ∃ n, steps = n + 1 :=
      ⟨steps - 1, by rw [List.length_cons] at hsteps; omega⟩
    cases more with
    | nil =>
      rw [List.map_singleton, List.intercalate_singleton, readItems, readMember_memberText]
      rfl
    | cons next others =>
      have hmore := ih (List.cons_ne_nil next others) (Nat.le_of_succ_le_succ hsteps)
      obtain ⟨tail, htail⟩ := exists_quote (List.cons_ne_nil next others) ('\x7d' :: rest)
      rw [htail, ← skipBlanks_quote] at hmore
      rw [List.map_cons, List.map_cons, List.intercalate_cons_cons, ← List.map_cons, List.append_assoc,
        List.append_assoc, List.singleton_append, htail, readItems, readMember_memberText]
      show Option.map _ (readItems _ _ steps (skipBlanks ('"' :: tail))) = _
      rw [hmore]
      rfl

theorem length_le_length_intercalate (fields : List (String × String)) (rest : List Char) :
    fields.length ≤ ([','].intercalate (fields.map memberText) ++ rest).length := by
  induction fields with
  | nil => exact Nat.zero_le _
  | cons field more ih =>
    have hone : 1 ≤ (memberText field).length := by simp [memberText, jsonString]
    cases more with
    | nil => simp; omega
    | cons next others =>
      rw [List.map_cons, List.map_cons, List.intercalate_cons_cons, ← List.map_cons]
      simp only [List.length_append, List.length_cons] at ih ⊢
      omega

/-- **An object of texts is read back**, whatever follows it. -/
theorem readValue_jsonObject (depth : Nat) (fields : List (String × String)) (rest : List Char) :
    readValue (depth + 2) (jsonObject fields ++ rest) = some (.object (fields.map member), rest) := by
  rw [jsonObject_eq, List.cons_append, List.append_assoc, List.singleton_append, readValue]
  by_cases hfields : fields = []
  · subst hfields
    rfl
  · have hread := readItems_fields depth hfields (length_le_length_intercalate fields ('\x7d' :: rest)) rest
    obtain ⟨tail, htail⟩ := exists_quote hfields ('\x7d' :: rest)
    rw [htail] at hread ⊢
    unfold readEnclosed
    rw [skipBlanks_quote]
    dsimp only
    rw [if_neg (by decide), hread]
    rfl

/-- **The text of an object of texts is read back.** -/
theorem ofText?_jsonObject (fields : List (String × String)) :
    ofText? (String.ofList (jsonObject fields)) = some (.object (fields.map member)) := by
  have hread := readValue_jsonObject ((jsonObject fields).length - 1) fields []
  have hlength : (jsonObject fields).length - 1 + 2 = (String.ofList (jsonObject fields)).length + 1 := by
    rw [String.length_ofList, jsonObject_eq, List.length_cons]
    omega
  unfold ofText?
  rw [← hlength, String.toList_ofList]
  rw [List.append_nil] at hread
  rw [show skipBlanks (jsonObject fields) = jsonObject fields from rfl, hread]
  rfl

/-! ## No control characters -/

theorem le_toNat_of_mem_jsonString {cs : List Char} {c : Char} (h : c ∈ jsonString cs) : 0x20 ≤ c.toNat := by
  unfold jsonString at h
  simp only [List.cons_append, List.mem_cons, List.mem_append, List.not_mem_nil, or_false] at h
  rcases h with rfl | h | rfl
  · decide
  · obtain ⟨d, -, hd⟩ := List.mem_flatMap.mp h
    exact (written_jsonChar d).le_toNat hd
  · decide

theorem le_toNat_of_mem_memberText {field : String × String} {c : Char} (h : c ∈ memberText field) :
    0x20 ≤ c.toNat := by
  rcases List.mem_append.mp h with h | h
  · exact le_toNat_of_mem_jsonString h
  · rcases List.mem_cons.mp h with rfl | h
    · decide
    · exact le_toNat_of_mem_jsonString h

/-- **No control character is written.** -/
theorem le_toNat_of_mem_jsonObject {fields : List (String × String)} {c : Char} (h : c ∈ jsonObject fields) :
    0x20 ≤ c.toNat := by
  rw [jsonObject_eq, List.mem_cons, List.mem_append, List.mem_singleton] at h
  rcases h with rfl | h | rfl
  · decide
  · rcases Text.mem_of_mem_intercalate h with hcomma | ⟨text, htext, hc⟩
    · rw [List.mem_singleton.mp hcomma]
      decide
    · obtain ⟨field, -, rfl⟩ := List.mem_map.mp htext
      exact le_toNat_of_mem_memberText hc
  · decide

end Json

end Checkout
