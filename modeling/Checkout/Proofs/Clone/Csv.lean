import Checkout.Clone.Csv
import Checkout.Proofs.Text.Pieces

/-!
# What a comma-separated parameter lists

An item is a text that is not empty, with no comma in it and no blank at its ends. A parameter spells a list of
items when its entries, the texts between the commas, are these items in their order: each may have blanks
around it, and entries of blanks only may stand anywhere. A parameter is read as the one list that it spells.

Results:
* `parseCsv_append`, `parseCsv_intercalate`: a parameter is read entry by entry;
* `parseCsv_of_padded`, `parseCsv_of_blank`: what one entry is read as;
* `parseCsv_eq_iff`: a parameter is read as a list just if it spells it;
* `csv_items_exact`: all of it.
-/

namespace Checkout

open Text

/-! ## Items and entries -/

/-- A text of blanks only. -/
def IsBlankText (text : String) : Prop := ∀ c ∈ text.toList, isBlank c = true

/-- An item of a list: a text that is not empty, with no comma in it and no blank at its ends. -/
structure IsItem (item : String) : Prop where
  notEmpty : item ≠ ""
  noComma : ',' ∉ item.toList
  noBlankAhead : ∀ c ∈ item.toList.head?, isBlank c = false
  noBlankBehind : ∀ c ∈ item.toList.getLast?, isBlank c = false

/-- The entries are these items in their order, with blanks around them, and entries of blanks among them. -/
inductive SpreadOver : List String → List String → Prop where
  | nil : SpreadOver [] []
  | blank {entry : String} {items entries : List String} : IsBlankText entry → SpreadOver items entries →
      SpreadOver items (entry :: entries)
  | item {front item back : String} {items entries : List String} : IsBlankText front → IsItem item →
      IsBlankText back → SpreadOver items entries →
      SpreadOver (item :: items) ((front ++ item ++ back) :: entries)

/-- The entries of a parameter are these items with blanks. -/
def SpellsItems (text : String) (items : List String) : Prop :=
  ∃ entries, SpreadOver items entries ∧ text = ",".intercalate entries

variable {text entry front item back : String} {items entries : List String}

theorem isBlankText_empty : IsBlankText "" := by
  unfold IsBlankText
  simp

theorem IsBlankText.append (hfront : IsBlankText front) (hback : IsBlankText back) :
    IsBlankText (front ++ back) := by
  unfold IsBlankText
  rw [String.toList_append]
  exact List.forall_mem_append.mpr ⟨hfront, hback⟩

theorem comma_not_mem_of_blank (h : IsBlankText text) : ',' ∉ text.toList :=
  fun hmem => absurd (h _ hmem) (by decide)

theorem SpreadOver.isItem (h : SpreadOver items entries) : ∀ item ∈ items, IsItem item := by
  induction h with
  | nil => exact fun _ hmem => absurd hmem List.not_mem_nil
  | blank _ _ ih => exact ih
  | item _ hitem _ _ ih => exact List.forall_mem_cons.mpr ⟨hitem, ih⟩

/-- Items are spread over themselves. -/
theorem spreadOver_self (h : ∀ item ∈ items, IsItem item) : SpreadOver items items := by
  induction items with
  | nil => exact .nil
  | cons item items ih =>
    obtain ⟨hitem, hitems⟩ := List.forall_mem_cons.mp h
    have hspread := SpreadOver.item isBlankText_empty hitem isBlankText_empty (ih hitems)
    rwa [String.empty_append, String.append_empty] at hspread

/-! ## A parameter is read entry by entry -/

theorem csvItems_append (front back : List Char) :
    csvItems (front ++ ',' :: back) = csvItems front ++ csvItems back := by
  unfold csvItems
  rw [List.splitOn_append_cons_self, List.map_append, List.filter_append]

theorem parseCsv_append (a b : String) : parseCsv (a ++ "," ++ b) = parseCsv a ++ parseCsv b := by
  unfold parseCsv
  rw [String.toList_append, String.toList_append, List.append_assoc,
    show ",".toList ++ b.toList = ',' :: b.toList from rfl, csvItems_append, List.map_append]

theorem csvItems_of_not_mem {cs : List Char} (h : ',' ∉ cs) :
    csvItems cs = [trimList cs].filter (!·.isEmpty) := by
  unfold csvItems
  rw [List.splitOn_eq_singleton h]
  rfl

/-- An entry with something in it is read as the item in it. -/
theorem parseCsv_of_padded (hfront : IsBlankText front) (hitem : IsItem item) (hback : IsBlankText back) :
    parseCsv (front ++ item ++ back) = [item] := by
  have hcomma : ',' ∉ (front ++ item ++ back).toList := by
    simp [comma_not_mem_of_blank hfront, hitem.noComma, comma_not_mem_of_blank hback]
  have htrim : trimList (front ++ item ++ back).toList = item.toList := by
    rw [String.toList_append, String.toList_append]
    exact trimWhile_append_append hfront hback hitem.noBlankAhead hitem.noBlankBehind
  have hne : item.toList ≠ [] := fun h => hitem.notEmpty (String.toList_inj.mp h)
  unfold parseCsv
  rw [csvItems_of_not_mem hcomma, htrim, List.filter_cons_of_pos (by simpa using hne), List.filter_nil,
    List.map_singleton, String.ofList_toList]

/-- An entry with nothing in it is read as no item. -/
theorem parseCsv_of_blank (h : IsBlankText entry) : parseCsv entry = [] := by
  have htrim : trimList entry.toList = [] :=
    trimWhile_eq_iff.mpr ⟨⟨by simp, by simp⟩, entry.toList, [], by simp, h, by simp⟩
  unfold parseCsv
  rw [csvItems_of_not_mem (comma_not_mem_of_blank h), htrim]
  rfl

/-- **A parameter is read entry by entry.** -/
theorem parseCsv_intercalate (entries : List String) :
    parseCsv (",".intercalate entries) = entries.flatMap parseCsv := by
  induction entries with
  | nil => exact parseCsv_of_blank isBlankText_empty
  | cons entry rest ih =>
    cases rest with
    | nil => rw [String.intercalate_singleton, List.flatMap_singleton]
    | cons next more =>
      rw [String.intercalate_cons_cons, parseCsv_append, ih]
      exact List.flatMap_cons.symm

/-! ## A parameter spells what it is read as -/

theorem flatMap_parseCsv (h : SpreadOver items entries) : entries.flatMap parseCsv = items := by
  induction h with
  | nil => rfl
  | blank hblank _ ih => rw [List.flatMap_cons, parseCsv_of_blank hblank, ih, List.nil_append]
  | item hfront hitem hback _ ih =>
    rw [List.flatMap_cons, parseCsv_of_padded hfront hitem hback, ih, List.singleton_append]

theorem isItem_trimList {piece : List Char} (hcomma : ',' ∉ piece) (hne : trimList piece ≠ []) :
    IsItem (String.ofList (trimList piece)) := by
  obtain ⟨⟨hhead, hlast⟩, front, back, hpiece, -, -⟩ := trimWhile_eq_iff.mp (rfl : _ = trimList piece)
  refine ⟨fun heq => hne (String.ofList_eq_empty_iff.mp heq), ?_, ?_, ?_⟩ <;> rw [String.toList_ofList]
  · intro hmem
    rw [hpiece] at hcomma
    exact hcomma (List.mem_append_left _ (List.mem_append_right _ hmem))
  · exact hhead
  · exact hlast

/-- Around what is left of a trimmed text are blanks. -/
theorem exists_around_trimList (piece : List Char) : ∃ front back, IsBlankText front ∧ IsBlankText back ∧
    String.ofList piece = front ++ String.ofList (trimList piece) ++ back := by
  obtain ⟨-, front, back, hpiece, hfront, hback⟩ := trimWhile_eq_iff.mp (rfl : _ = trimList piece)
  refine ⟨String.ofList front, String.ofList back, ?_, ?_, ?_⟩
  · rwa [IsBlankText, String.toList_ofList]
  · rwa [IsBlankText, String.toList_ofList]
  · rw [← String.ofList_append, ← String.ofList_append, ← hpiece]

/-- The pieces between commas are the entries of what is left when they are trimmed. -/
theorem spreadOver_pieces {pieces : List (List Char)} (h : ∀ piece ∈ pieces, ',' ∉ piece) :
    SpreadOver (((pieces.map trimList).filter (!·.isEmpty)).map String.ofList) (pieces.map String.ofList) := by
  induction pieces with
  | nil => exact .nil
  | cons piece rest ih =>
    obtain ⟨hcomma, hrest⟩ := List.forall_mem_cons.mp h
    obtain ⟨front, back, hfront, hback, hpiece⟩ := exists_around_trimList piece
    rw [List.map_cons, List.map_cons, hpiece]
    -- a piece with nothing left is an entry of blanks, and any other one has an item in it
    by_cases hempty : trimList piece = []
    · rw [List.filter_cons_of_neg (by simp [hempty]), hempty, String.ofList_nil, String.append_empty]
      exact .blank (hfront.append hback) (ih hrest)
    · rw [List.filter_cons_of_pos (by simpa using hempty), List.map_cons]
      exact .item hfront (isItem_trimList hcomma hempty) hback (ih hrest)

theorem spellsItems_parseCsv (text : String) : SpellsItems text (parseCsv text) := by
  refine ⟨(text.toList.splitOn ',').map String.ofList, ?_, ?_⟩
  · exact spreadOver_pieces fun piece hpiece => not_mem_of_mem_splitOn hpiece
  · rw [← String.toList_inj, String.toList_intercalate, List.map_map]
    simp [Function.comp_def, List.intercalate_splitOn]

/-- **A parameter is read as a list** just if it spells it. -/
theorem parseCsv_eq_iff : parseCsv text = items ↔ SpellsItems text items := by
  constructor
  · rintro rfl
    exact spellsItems_parseCsv text
  · rintro ⟨entries, hspread, rfl⟩
    rw [parseCsv_intercalate, flatMap_parseCsv hspread]

theorem isItem_of_mem_parseCsv (text : String) : ∀ item ∈ parseCsv text, IsItem item := by
  obtain ⟨_, hspread, -⟩ := spellsItems_parseCsv text
  exact hspread.isItem

/-- **What a comma-separated parameter lists.** All that is read of a parameter are items: not empty, without a
comma, and without a blank at their ends. Two parameters with a comma between them are read one after the
other. A parameter is read as a list just if it spells it, which is to say that its entries are the items of
the list in order, with any blanks around them and any entries of blanks among them. So what was read, with
commas put between, is read as the same list again. -/
theorem csv_items_exact :
    (∀ text, ∀ item ∈ parseCsv text, IsItem item) ∧
    (∀ a b, parseCsv (a ++ "," ++ b) = parseCsv a ++ parseCsv b) ∧
    (∀ text items, parseCsv text = items ↔ SpellsItems text items) ∧
    ∀ text, parseCsv (",".intercalate (parseCsv text)) = parseCsv text := by
  refine ⟨isItem_of_mem_parseCsv, parseCsv_append, fun text items => parseCsv_eq_iff, fun text => ?_⟩
  have hitems := isItem_of_mem_parseCsv text
  exact parseCsv_eq_iff.mpr ⟨parseCsv text, spreadOver_self hitems, rfl⟩

/-- Blanks of any script are trimmed off, and those inside an item stay. -/
example : parseCsv "\u00a0src/a,, b c \t,\u3000" = ["src/a", "b c"] := by decide

end Checkout
