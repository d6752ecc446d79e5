import Checkout.Text.Blank
import Mathlib.Data.List.Basic
import Mathlib.Data.List.TakeWhile

/-!
# Texts and their pieces

A text falls into the pieces between the places of a separator, and is put together from them again. What is
read of a text up to a sign is what stands in front of it, and what is trimmed off it is blank.

Results:
* `takeWhile_append_eq`, `dropWhile_append_eq`, `head_dropWhile`: reading up to a sign;
* `mem_of_mem_intercalate`, `mem_of_mem_splitOn`, `not_mem_of_mem_splitOn`: what pieces are made of;
* `splitOn_intercalate_of_ne_nil`: pieces that are put together fall into their own pieces again;
* `filter_trimWhile`: trimming keeps what is not trimmed off;
* `trimWhile_eq_iff`: what is left when a text is trimmed.
-/

namespace Checkout.Text

/-! ## Reading up to a sign -/

theorem takeWhile_append_eq {α : Type} {p : α → Bool} {front back : List α} (hfront : ∀ c ∈ front, p c = true)
    (hback : ∀ c ∈ back.head?, p c = false) : (front ++ back).takeWhile p = front := by
  rw [List.takeWhile_append_of_pos hfront]
  cases back with
  | nil => rw [List.takeWhile_nil, List.append_nil]
  | cons c back => rw [List.takeWhile_cons_of_neg (by simp [hback c rfl]), List.append_nil]

theorem dropWhile_append_eq {α : Type} {p : α → Bool} {front back : List α} (hfront : ∀ c ∈ front, p c = true)
    (hback : ∀ c ∈ back.head?, p c = false) : (front ++ back).dropWhile p = back := by
  rw [List.dropWhile_append_of_pos hfront]
  cases back with
  | nil => rfl
  | cons c back => rw [List.dropWhile_cons_of_neg (by simp [hback c rfl])]

/-- What stops the reading is not read. -/
theorem head_dropWhile {α : Type} (p : α → Bool) (cs : List α) : ∀ c ∈ (cs.dropWhile p).head?, p c = false := by
  intro c hc
  have hstop := List.head?_dropWhile_not p cs
  rwa [Option.mem_def.mp hc] at hstop

/-! ## Pieces -/

theorem mem_of_mem_intercalate {α : Type} {sep : List α} {parts : List (List α)} {c : α}
    (h : c ∈ sep.intercalate parts) : c ∈ sep ∨ ∃ part ∈ parts, c ∈ part := by
  induction parts with
  | nil => simp at h
  | cons part rest ih =>
    cases rest with
    | nil =>
      rw [List.intercalate_singleton] at h
      exact Or.inr ⟨part, List.mem_cons_self, h⟩
    | cons next more =>
      rw [List.intercalate_cons_cons, List.mem_append, List.mem_append] at h
      rcases h with (h | h) | h
      · exact Or.inr ⟨part, List.mem_cons_self, h⟩
      · exact Or.inl h
      · rcases ih h with h | ⟨x, hx, h⟩
        · exact Or.inl h
        · exact Or.inr ⟨x, List.mem_cons_of_mem _ hx, h⟩

theorem mem_intercalate_of_mem {α : Type} (sep : List α) {part : List α} {parts : List (List α)} {c : α}
    (hpart : part ∈ parts) (h : c ∈ part) : c ∈ sep.intercalate parts := by
  induction parts with
  | nil => cases hpart
  | cons first rest ih =>
    cases rest with
    | nil =>
      rw [List.mem_singleton] at hpart
      rw [List.intercalate_singleton]
      exact hpart ▸ h
    | cons next more =>
      rw [List.intercalate_cons_cons, List.mem_append, List.mem_append]
      rcases List.mem_cons.mp hpart with rfl | hpart
      · exact Or.inl (Or.inl h)
      · exact Or.inr (ih hpart)

theorem not_mem_of_mem_splitOn {α : Type} [BEq α] [LawfulBEq α] {x : α} {xs part : List α}
    (h : part ∈ xs.splitOn x) : x ∉ part := by
  induction xs generalizing part with
  | nil =>
    rw [List.splitOn_nil, List.mem_singleton] at h
    simp [h]
  | cons y xs ih =>
    rw [List.splitOn_cons_eq_if_modifyHead] at h
    split at h
    · rcases List.mem_cons.mp h with rfl | h
      · exact List.not_mem_nil
      · exact ih h
    · rename_i hne
      obtain ⟨first, more, heq⟩ := List.exists_cons_of_ne_nil (List.splitOn_ne_nil x xs)
      rw [heq, List.modifyHead_cons] at h
      rcases List.mem_cons.mp h with rfl | h
      · have hother : y ≠ x := by simpa using hne
        have hfirst := ih (heq ▸ List.mem_cons_self)
        simp [hother.symm, hfirst]
      · exact ih (heq ▸ List.mem_cons_of_mem _ h)

theorem mem_of_mem_splitOn {α : Type} [BEq α] [LawfulBEq α] {x c : α} {xs part : List α}
    (h : part ∈ xs.splitOn x) (hc : c ∈ part) : c ∈ xs := by
  have hjoined := mem_intercalate_of_mem [x] h hc
  rwa [List.intercalate_splitOn] at hjoined

/-- What is put in front of a text without the separator goes in front of its first piece. -/
theorem splitOn_append_of_not_mem {α : Type} [BEq α] [LawfulBEq α] {x : α} {front : List α} (h : x ∉ front)
    (back : List α) : (front ++ back).splitOn x = (back.splitOn x).modifyHead (front ++ ·) := by
  by_cases hx : x ∈ back
  · obtain ⟨first, rest, rfl, hfirst⟩ := List.eq_append_cons_of_mem hx
    have hwhole : x ∉ front ++ first := by simp [h, hfirst]
    rw [← List.append_assoc, List.splitOn_append_cons_self_of_not_mem hwhole,
      List.splitOn_append_cons_self_of_not_mem hfirst, List.modifyHead_cons]
  · rw [List.splitOn_eq_singleton hx, List.splitOn_eq_singleton (by simp [h, hx]), List.modifyHead_cons]

/-- **Pieces that are put together** fall into the pieces that they have themselves. -/
theorem splitOn_intercalate_of_ne_nil {α : Type} [BEq α] [LawfulBEq α] (x : α) {parts : List (List α)}
    (h : parts ≠ []) : ([x].intercalate parts).splitOn x = parts.flatMap (·.splitOn x) := by
  induction parts with
  | nil => exact absurd rfl h
  | cons part rest ih =>
    cases rest with
    | nil => simp
    | cons next more =>
      rw [List.intercalate_cons_cons, List.append_assoc, List.singleton_append,
        List.splitOn_append_cons_self, ih (List.cons_ne_nil _ _)]
      exact List.flatMap_cons.symm

/-! ## Trimming -/

theorem filter_dropWhile (p : Char → Bool) (cs : List Char) :
    (cs.dropWhile p).filter (!p ·) = cs.filter (!p ·) := by
  have htaken : (cs.takeWhile p).filter (!p ·) = [] := by
    rw [List.filter_eq_nil_iff]
    intro c hc
    simp [List.mem_takeWhile_imp hc]
  conv_rhs => rw [← List.takeWhile_append_dropWhile (p := p) (l := cs)]
  rw [List.filter_append, htaken, List.nil_append]

/-- **Trimming keeps** what is not trimmed off. -/
theorem filter_trimWhile (p : Char → Bool) (cs : List Char) :
    (trimWhile p cs).filter (!p ·) = cs.filter (!p ·) := by
  unfold trimWhile dropWhileEnd
  rw [List.filter_reverse, filter_dropWhile, List.filter_reverse, List.reverse_reverse, filter_dropWhile]

section Ends

variable {p : Char → Bool} {cs front word back : List Char}

theorem dropWhileEnd_append_eq (hback : ∀ c ∈ back, p c = true) (hlast : ∀ c ∈ word.getLast?, p c = false) :
    dropWhileEnd p (word ++ back) = word := by
  unfold dropWhileEnd
  rw [List.reverse_append, dropWhile_append_eq (by simpa using hback) (by simpa using hlast), List.reverse_reverse]

theorem exists_dropWhileEnd_append {α : Type} (p : α → Bool) (cs : List α) :
    ∃ back, cs = dropWhileEnd p cs ++ back ∧ ∀ c ∈ back, p c = true := by
  refine ⟨(cs.reverse.takeWhile p).reverse, ?_, fun c hc => ?_⟩
  · unfold dropWhileEnd
    rw [← List.reverse_append, List.takeWhile_append_dropWhile, List.reverse_reverse]
  · exact List.mem_takeWhile_imp (List.mem_reverse.mp hc)

theorem last_dropWhileEnd (p : Char → Bool) (cs : List Char) :
    ∀ c ∈ (dropWhileEnd p cs).getLast?, p c = false := by
  unfold dropWhileEnd
  rw [List.getLast?_reverse]
  exact head_dropWhile p cs.reverse

theorem head_trimWhile (p : Char → Bool) (cs : List Char) : ∀ c ∈ (trimWhile p cs).head?, p c = false := by
  intro c hc
  obtain ⟨back, hback, -⟩ := exists_dropWhileEnd_append p (cs.dropWhile p)
  refine head_dropWhile p cs c ?_
  rw [hback, List.head?_append, show (dropWhileEnd p _).head? = some c from hc]
  rfl

/-- What is put around a text is trimmed off again. -/
theorem trimWhile_append_append (hfront : ∀ c ∈ front, p c = true) (hback : ∀ c ∈ back, p c = true)
    (hhead : ∀ c ∈ word.head?, p c = false) (hlast : ∀ c ∈ word.getLast?, p c = false) :
    trimWhile p (front ++ word ++ back) = word := by
  unfold trimWhile
  rw [List.append_assoc, List.dropWhile_append_of_pos hfront]
  cases word with
  | nil =>
    -- nothing stops the dropping from the front, which takes what is behind as well
    rw [List.nil_append, List.dropWhile_eq_nil_iff.mpr hback]
    rfl
  | cons c rest =>
    rw [List.cons_append, List.dropWhile_cons_of_neg (by simp [hhead c rfl]), ← List.cons_append]
    exact dropWhileEnd_append_eq hback hlast

/-- **What is left when a text is trimmed**: the text in it with nothing to trim off at its ends. -/
theorem trimWhile_eq_iff : trimWhile p cs = word ↔
    ((∀ c ∈ word.head?, p c = false) ∧ ∀ c ∈ word.getLast?, p c = false) ∧
      ∃ front back, cs = front ++ word ++ back ∧ (∀ c ∈ front, p c = true) ∧ ∀ c ∈ back, p c = true := by
  constructor
  · rintro rfl
    obtain ⟨back, hback, hall⟩ := exists_dropWhileEnd_append p (cs.dropWhile p)
    refine ⟨⟨head_trimWhile p cs, last_dropWhileEnd p _⟩, cs.takeWhile p, back, ?_,
      fun c hc => List.mem_takeWhile_imp hc, hall⟩
    unfold trimWhile
    rw [List.append_assoc, ← hback, List.takeWhile_append_dropWhile]
  · rintro ⟨⟨hhead, hlast⟩, front, back, rfl, hfront, hback⟩
    exact trimWhile_append_append hfront hback hhead hlast

end Ends

end Checkout.Text
