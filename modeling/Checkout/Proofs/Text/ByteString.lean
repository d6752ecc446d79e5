import Checkout.Proofs.Text.Utf8
import Checkout.Text.ByteString

/-!
# Laws of byte strings

Byte strings are put together and compared by their bytes. A text is known from its bytes, and shown as it
is.

Results:
* `ofText_inj`, `shown_ofText`: a text and its bytes;
* `toList_append`, `length_append`, `append_assoc`: byte strings one after another;
* `intercalate_singleton`, `intercalate_cons_cons`: byte strings with a separator in between;
* `le_trans`, `le_total`, `lt_of_le_of_ne`: the order of byte strings.
-/

namespace Checkout.ByteString

variable {s t u : ByteString}

theorem toList_inj : s.toList = t.toList ↔ s = t :=
  ⟨fun h => congrArg ofList h, congrArg toList⟩

theorem toList_ofList (bytes : List UInt8) : (ofList bytes).toList = bytes := rfl

theorem ofList_toList (s : ByteString) : ofList s.toList = s := rfl

/-! ## Texts -/

theorem decode?_ofText (text : String) : Text.decode? (ofText text).toList = some text :=
  Text.decode?_encode text

/-- **A text is shown as it is.** -/
@[simp] theorem shown_ofText (text : String) : (ofText text).shown = text := by
  unfold shown Text.decodeLossy
  rw [decode?_ofText]

/-- **A text is known from its bytes.** -/
@[simp] theorem ofText_inj {a b : String} : ofText a = ofText b ↔ a = b :=
  ⟨fun h => by rw [← shown_ofText a, h, shown_ofText], congrArg ofText⟩

theorem ofText_append (a b : String) : ofText (a ++ b) = ofText a ++ ofText b := by
  apply toList_inj.mp
  change Text.encode (a ++ b) = Text.encode a ++ Text.encode b
  rw [Text.encode_eq, Text.encode_eq, Text.encode_eq, String.toList_append, List.flatMap_append]

/-! ## The empty byte string -/

@[simp] theorem toList_empty : (ofText "").toList = [] := rfl

theorem toList_eq_nil_iff : s.toList = [] ↔ s = "" := by
  rw [← toList_inj, toList_empty]

theorem length_eq_zero_iff : s.length = 0 ↔ s = "" := by
  rw [← toList_eq_nil_iff]
  exact List.length_eq_zero_iff

/-! ## One after another -/

@[simp] theorem toList_append : (s ++ t).toList = s.toList ++ t.toList := rfl

@[simp] theorem length_append : (s ++ t).length = s.length + t.length := List.length_append

theorem append_assoc : s ++ t ++ u = s ++ (t ++ u) :=
  toList_inj.mp (List.append_assoc _ _ _)

@[simp] theorem empty_append : ("" : ByteString) ++ s = s := rfl

@[simp] theorem append_eq_empty_iff : s ++ t = "" ↔ s = "" ∧ t = "" := by
  simp only [← toList_eq_nil_iff, toList_append, List.append_eq_nil_iff]

variable {separator : ByteString} {parts : List ByteString}

@[simp] theorem intercalate_singleton : separator.intercalate [s] = s := by
  apply toList_inj.mp
  simp [intercalate]

theorem intercalate_cons_cons :
    separator.intercalate (s :: t :: parts) = s ++ separator ++ separator.intercalate (t :: parts) := by
  apply toList_inj.mp
  simp [intercalate, List.intercalate_cons_cons]

/-! ## Order -/

theorem le_trans (h : s ≤ t) (h' : t ≤ u) : s ≤ u := List.le_trans (α := UInt8) h h'

theorem le_total (s t : ByteString) : s ≤ t ∨ t ≤ s := List.le_total s.toList t.toList

theorem lt_irrefl (s : ByteString) : ¬ s < s := List.lt_irrefl s.toList

theorem lt_asymm (h : s < t) : ¬ t < s := List.lt_asymm (α := UInt8) h

theorem lt_of_le_of_ne (h : s ≤ t) (hne : s ≠ t) : s < t := by
  refine Classical.byContradiction fun hnot => hne (toList_inj.mp ?_)
  have hle : t.toList ≤ s.toList := List.not_lt.mp hnot
  exact List.le_antisymm h hle

end Checkout.ByteString
