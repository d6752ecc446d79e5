import Checkout.Proofs.Url.Percent
import Checkout.Url.Reader

/-!
# Paths are read back

A path is read segment by segment: those that are dots go, the others are encoded. Encoding makes no segment
one of dots. What a segment means is what it is decoded to, dots in triples included, and encoding does not
change that. So the segments of a path that was read stay as they are when they are read again.

Results:
* `isSingleDot_iff`, `isDoubleDot_iff`: which segments are dots;
* `isSegment_of_mem_readPath`: the segments of a path that was read;
* `readPath_segments`: such segments are read back.
-/

namespace Checkout.Url

open Number

variable {kind : SchemeKind} {name text rest : List Char} {names done : List (List Char)}

/-! ## Dots -/

/-- One point, as it is or in a triple. -/
def IsPoint (cs : List Char) : Prop := cs.map Char.toLower = ['.'] ∨ cs.map Char.toLower = ['%', '2', 'e']

theorem ofList_eq_iff {cs : List Char} {s : String} : String.ofList cs = s ↔ cs = s.toList := by
  rw [← String.toList_inj, String.toList_ofList]

theorem isSingleDot_iff_isPoint : isSingleDot text = true ↔ IsPoint text := by
  unfold isSingleDot IsPoint
  simp only [List.contains_eq_mem, List.mem_cons, List.not_mem_nil, or_false, decide_eq_true_eq,
    ofList_eq_iff]
  rfl

/-- Two points stand one behind the other. -/
theorem isDoubleDot_iff_isPoint :
    isDoubleDot text = true ↔ ∃ front back, text = front ++ back ∧ IsPoint front ∧ IsPoint back := by
  have hlist : isDoubleDot text = true ↔ ∃ x ∈ [['.'], ['%', '2', 'e']], ∃ y ∈ [['.'], ['%', '2', 'e']],
      text.map Char.toLower = x ++ y := by
    unfold isDoubleDot
    simp [ofList_eq_iff]
    tauto
  rw [hlist]
  constructor
  · rintro ⟨x, hx, y, hy, h⟩
    obtain ⟨front, back, rfl, hfront, hback⟩ := List.map_eq_append_iff.mp h
    subst hfront hback
    exact ⟨front, back, rfl, by simpa [IsPoint] using hx, by simpa [IsPoint] using hy⟩
  · rintro ⟨front, back, rfl, hfront, hback⟩
    exact ⟨_, by simpa [IsPoint] using hfront, _, by simpa [IsPoint] using hback, List.map_append⟩

theorem lt_of_toLower {c : Char} (h : c.toLower.toNat < 128) : c.toNat < 128 := by
  by_contra hlarge
  have hsame : c.toLower = c := by
    unfold Char.toLower
    split
    · rename_i hupper
      have : c.toNat ≤ 90 := hupper.2
      omega
    · rfl
  rw [hsame] at h
  exact hlarge h

/-- Only a letter is another one in lower case. -/
theorem eq_of_toLower {c d : Char} (h : c.toLower = d) (hd : d ∈ ['.', '%', '2']) : c = d := by
  subst h
  exact Percent.forall_ascii (p := fun c => c.toLower ∈ ['.', '%', '2'] → c = c.toLower) (by decide)
    (lt_of_toLower (Percent.forall_mem_of_all (p := fun d => d.toNat < 128) (by decide) _ hd)) hd

theorem digit?_of_toLower {c : Char} (h : c.toLower = 'e') : digit? c = some 14 :=
  Percent.forall_ascii (p := fun c => c.toLower = 'e' → digit? c = some 14) (by decide)
    (lt_of_toLower (by rw [h]; decide)) h

theorem toLower_of_digit? {c : Char} (h : digit? c = some 14) : c.toLower = 'e' :=
  Percent.forall_ascii (p := fun c => digit? c = some 14 → c.toLower = 'e') (by decide)
    (Percent.lt_of_isSome_digit? (by rw [h]; rfl)) h

theorem eq_two_of_digit? {c : Char} (h : digit? c = some 2) : c = '2' :=
  Percent.forall_ascii (p := fun c => digit? c = some 2 → c = '2') (by decide)
    (Percent.lt_of_isSome_digit? (by rw [h]; rfl)) h

theorem lt_of_digit? {c : Char} {k : Nat} (h : digit? c = some k) : k < 16 :=
  Percent.forall_ascii (p := fun c => ∀ k ∈ digit? c, k < 16) (by decide)
    (Percent.lt_of_isSome_digit? (by rw [h]; rfl)) k h

/-- A point is written in one of two ways, but for the case of its digit. -/
theorem isPoint_iff : IsPoint text ↔ text = ['.'] ∨ ∃ e, text = ['%', '2', e] ∧ e.toLower = 'e' := by
  constructor
  · rintro (h | h)
    · obtain ⟨c, rest, rfl, hc, hrest⟩ := List.map_eq_cons_iff.mp h
      rw [List.map_eq_nil_iff.mp hrest, eq_of_toLower hc (by simp)]
      exact Or.inl rfl
    · obtain ⟨c, rest, rfl, hc, hrest⟩ := List.map_eq_cons_iff.mp h
      obtain ⟨d, rest, rfl, hd, hrest⟩ := List.map_eq_cons_iff.mp hrest
      obtain ⟨e, rest, rfl, he, hrest⟩ := List.map_eq_cons_iff.mp hrest
      rw [List.map_eq_nil_iff.mp hrest, eq_of_toLower hc (by simp), eq_of_toLower hd (by simp)]
      exact Or.inr ⟨e, rfl, he⟩
  · rintro (rfl | ⟨e, rfl, he⟩)
    · exact Or.inl (by decide)
    · exact Or.inr (by simp [he])

/-- **A point is decoded to a point.** -/
theorem IsPoint.decode_append (h : IsPoint text) (rest : List Char) :
    Percent.decode (text ++ rest) = 0x2E :: Percent.decode rest := by
  rcases isPoint_iff.mp h with rfl | ⟨e, rfl, he⟩
  · exact Percent.decode_cons (by decide) rest
  · exact Percent.decode_triple (x := 2) (y := 14) (by decide) (digit?_of_toLower he) rest

theorem eq_of_ofNat_eq_point {n : Nat} (hn : n < 256) (h : UInt8.ofNat n = 0x2E) : n = 0x2E := by
  have hvalue := congrArg UInt8.toNat h
  rwa [UInt8.toNat_ofNat_of_lt' hn] at hvalue

/-- In UTF-8 only a point begins like a point. -/
theorem eq_point_of_utf8EncodeChar {c : Char} {bs bytes : List UInt8}
    (h : String.utf8EncodeChar c ++ bs = 0x2E :: bytes) : c = '.' ∧ bs = bytes := by
  unfold String.utf8EncodeChar at h
  dsimp only at h
  split at h
  · obtain ⟨hfirst, hrest⟩ := List.cons.inj h
    have hvalue := eq_of_ofNat_eq_point (by omega) hfirst
    exact ⟨Char.toNat_inj.mp hvalue, hrest⟩
  all_goals
    exfalso
    repeat' split at h
    all_goals
      have hvalue := eq_of_ofNat_eq_point (by omega) (List.cons.inj h).1
      omega

/-- **Only a point is decoded to a point.** -/
theorem exists_of_decode {bs : List UInt8} (h : Percent.decode text = 0x2E :: bs) :
    ∃ front back, text = front ++ back ∧ IsPoint front ∧ Percent.decode back = bs := by
  cases text with
  | nil => cases h
  | cons c rest =>
    by_cases hc : c = '%'
    · subst hc
      by_cases hdigits : Percent.BeginsWithDigits rest
      · obtain ⟨a, b, back, rfl, ha, hb⟩ := hdigits
        obtain ⟨x, hx⟩ := Option.isSome_iff_exists.mp ha
        obtain ⟨y, hy⟩ := Option.isSome_iff_exists.mp hb
        rw [Percent.decode_triple hx hy] at h
        obtain ⟨hfirst, hrest⟩ := List.cons.inj h
        have hx' := lt_of_digit? hx
        have hy' := lt_of_digit? hy
        have hvalue := eq_of_ofNat_eq_point (by omega) hfirst
        obtain ⟨rfl, rfl⟩ : x = 2 ∧ y = 14 := by omega
        exact ⟨['%', a, b], back, rfl, isPoint_iff.mpr (Or.inr ⟨b, by rw [eq_two_of_digit? hx],
          toLower_of_digit? hy⟩), hrest⟩
      · rw [Percent.decode_percent hdigits] at h
        cases h
    · rw [Percent.decode_cons hc] at h
      obtain ⟨rfl, hrest⟩ := eq_point_of_utf8EncodeChar h
      exact ⟨['.'], rest, rfl, Or.inl (by decide), hrest⟩

theorem isSingleDot_iff : isSingleDot text = true ↔ Percent.decode text = [0x2E] := by
  rw [isSingleDot_iff_isPoint]
  constructor
  · intro h
    have hdecode := h.decode_append []
    rwa [List.append_nil] at hdecode
  · intro h
    obtain ⟨front, back, rfl, hfront, hback⟩ := exists_of_decode h
    rw [Percent.eq_nil_of_decode hback, List.append_nil]
    exact hfront

theorem isDoubleDot_iff : isDoubleDot text = true ↔ Percent.decode text = [0x2E, 0x2E] := by
  rw [isDoubleDot_iff_isPoint]
  constructor
  · rintro ⟨front, back, rfl, hfront, hback⟩
    have hdecode := hback.decode_append []
    rw [List.append_nil] at hdecode
    rw [hfront.decode_append, hdecode]
    rfl
  · intro h
    obtain ⟨front, back, rfl, hfront, hback⟩ := exists_of_decode h
    exact ⟨front, back, rfl, hfront, isSingleDot_iff_isPoint.mp (isSingleDot_iff.mpr hback)⟩

/-- **Encoding makes no segment one of dots.** -/
theorem isDot_encode (text : List Char) :
    isSingleDot (Percent.encode Percent.notInPath text) = isSingleDot text ∧
      isDoubleDot (Percent.encode Percent.notInPath text) = isDoubleDot text := by
  have hdecode := Percent.decode_encode Percent.sparesTriples_notInPath text
  refine ⟨Bool.eq_iff_iff.mpr ?_, Bool.eq_iff_iff.mpr ?_⟩
  · rw [isSingleDot_iff, isSingleDot_iff, hdecode]
  · rw [isDoubleDot_iff, isDoubleDot_iff, hdecode]

/-! ## Segments -/

/-- A segment of a path that was read. -/
structure IsSegment (kind : SchemeKind) (name : List Char) : Prop where
  encoded : ∀ c ∈ name, Percent.notInPath c = false
  whole : ∀ c ∈ name, isSeparator kind c = false
  notSingle : isSingleDot name = false
  notDouble : isDoubleDot name = false

theorem IsSegment.nil (kind : SchemeKind) : IsSegment kind [] :=
  ⟨by simp, by simp, by decide, by decide⟩

theorem isSeparator_of_isTriple {c : Char} (h : Percent.IsTriple c) : isSeparator kind c = false := by
  rcases h with rfl | ⟨k, hk, rfl⟩
  · cases kind <;> decide
  · cases kind <;>
      exact (by decide : ∀ k < 16, isSeparator _ (Percent.upperDigit k) = false) k hk

/-- A text between separators becomes a segment, if it is none of dots. -/
theorem IsSegment.encode (hwhole : ∀ c ∈ text, isSeparator kind c = false)
    (hsingle : isSingleDot text = false) (hdouble : isDoubleDot text = false) :
    IsSegment kind (Percent.encode Percent.notInPath text) := by
  obtain ⟨hsingle', hdouble'⟩ := isDot_encode text
  refine ⟨fun c hc => Percent.not_isEncoded_of_mem_encode Percent.sparesTriples_notInPath hc,
    fun c hc => ?_, hsingle'.trans hsingle, hdouble'.trans hdouble⟩
  rcases Percent.mem_encode hc with ⟨hmem, -⟩ | htriple
  · exact hwhole c hmem
  · exact isSeparator_of_isTriple htriple

theorem splitSegments_ne_nil (kind : SchemeKind) (text : List Char) : splitSegments kind text ≠ [] := by
  cases text with
  | nil => exact List.cons_ne_nil _ _
  | cons c rest =>
    rw [splitSegments]
    split
    · exact List.cons_ne_nil _ _
    · split <;> exact List.cons_ne_nil _ _

theorem isSeparator_of_mem_splitSegments (h : name ∈ splitSegments kind text) {c : Char} (hc : c ∈ name) :
    isSeparator kind c = false := by
  induction text generalizing name with
  | nil =>
    rw [splitSegments, List.mem_singleton] at h
    rw [h] at hc
    cases hc
  | cons d rest ih =>
    rw [splitSegments] at h
    split at h
    · rcases List.mem_cons.mp h with rfl | h
      · cases hc
      · exact ih h hc
    · rename_i hd
      obtain ⟨first, more, hsegments⟩ := List.exists_cons_of_ne_nil (splitSegments_ne_nil kind rest)
      rw [hsegments] at h
      rcases List.mem_cons.mp h with rfl | h
      · rcases List.mem_cons.mp hc with rfl | hc
        · simpa using hd
        · exact ih (hsegments ▸ List.mem_cons_self) hc
      · exact ih (hsegments ▸ List.mem_cons_of_mem _ h) hc

/-- **What is left when dots are resolved** are segments. -/
theorem isSegment_of_mem_resolveDots {texts : List (List Char)}
    (hdone : ∀ name ∈ done, IsSegment kind name)
    (htexts : ∀ text ∈ texts, ∀ c ∈ text, isSeparator kind c = false) :
    ∀ name ∈ resolveDots done texts, IsSegment kind name := by
  induction texts generalizing done with
  | nil =>
    intro name hname
    exact hdone name (List.mem_reverse.mp hname)
  | cons text texts ih =>
    have hrest := fun t ht => htexts t (List.mem_cons_of_mem _ ht)
    have hempty : ∀ {names : List (List Char)}, (∀ name ∈ names, IsSegment kind name) →
        ∀ name ∈ if texts.isEmpty then [] :: names else names, IsSegment kind name := by
      intro names hnames name hname
      split at hname
      · rcases List.mem_cons.mp hname with rfl | hname
        · exact .nil kind
        · exact hnames name hname
      · exact hnames name hname
    rw [resolveDots]
    split
    · exact ih (hempty fun name hname => hdone name (List.mem_of_mem_tail hname)) hrest
    · rename_i hdouble
      split
      · exact ih (hempty hdone) hrest
      · rename_i hsingle
        refine ih (fun name hname => ?_) hrest
        rcases List.mem_cons.mp hname with rfl | hname
        · exact .encode (htexts text List.mem_cons_self) (by simpa using hsingle) (by simpa using hdouble)
        · exact hdone name hname

theorem resolveDots_ne_nil {texts : List (List Char)} (h : texts ≠ []) : resolveDots done texts ≠ [] := by
  induction texts generalizing done with
  | nil => exact absurd rfl h
  | cons text texts ih =>
    by_cases hlast : texts = []
    · subst hlast
      rw [resolveDots, List.isEmpty_nil, if_pos rfl, if_pos rfl]
      split
      · simp [resolveDots]
      · split <;> simp [resolveDots]
    · rw [resolveDots]
      repeat' split
      all_goals exact ih hlast

/-- **The segments of a path** that was read. -/
theorem isSegment_of_mem_readPath (h : name ∈ readPath kind text) : IsSegment kind name := by
  unfold readPath at h
  split at h
  · split at h
    · rw [List.mem_singleton.mp h]
      exact .nil kind
    · cases h
  · exact isSegment_of_mem_resolveDots (by simp)
      (fun _ ht _ hc => isSeparator_of_mem_splitSegments ht hc) name h

/-- Behind a special scheme a path is never empty. -/
theorem readPath_ne_nil (h : kind.isSpecial = true) (text : List Char) : readPath kind text ≠ [] := by
  unfold readPath
  split
  · rw [if_pos h]
    exact List.cons_ne_nil _ _
  · exact resolveDots_ne_nil (splitSegments_ne_nil _ _)

/-! ## What is read of segments -/

theorem splitSegments_of_whole (h : ∀ c ∈ name, isSeparator kind c = false) :
    splitSegments kind name = [name] := by
  induction name with
  | nil => rfl
  | cons c name ih =>
    rw [splitSegments, h c List.mem_cons_self, if_neg (by decide),
      ih fun x hx => h x (List.mem_cons_of_mem _ hx)]

theorem splitSegments_append (h : ∀ c ∈ name, isSeparator kind c = false) (rest : List Char) :
    splitSegments kind (name ++ '/' :: rest) = name :: splitSegments kind rest := by
  induction name with
  | nil =>
    rw [List.nil_append, splitSegments, if_pos]
    simp [isSeparator]
  | cons c name ih =>
    rw [List.cons_append, splitSegments, h c List.mem_cons_self, if_neg (by decide),
      ih fun x hx => h x (List.mem_cons_of_mem _ hx)]

theorem splitSegments_flatMap (hname : IsSegment kind name) (hnames : ∀ x ∈ names, IsSegment kind x) :
    splitSegments kind (name ++ names.flatMap ('/' :: ·)) = name :: names := by
  induction names generalizing name with
  | nil =>
    rw [List.flatMap_nil, List.append_nil]
    exact splitSegments_of_whole hname.whole
  | cons next names ih =>
    rw [List.flatMap_cons, List.cons_append, splitSegments_append hname.whole,
      ih (hnames next List.mem_cons_self) fun x hx => hnames x (List.mem_cons_of_mem _ hx)]

/-- Segments hold no dots to resolve. -/
theorem resolveDots_segments (hnames : ∀ x ∈ names, IsSegment kind x) :
    resolveDots done names = done.reverse ++ names := by
  induction names generalizing done with
  | nil => simp [resolveDots]
  | cons name names ih =>
    have hname := hnames name List.mem_cons_self
    rw [resolveDots, hname.notDouble, hname.notSingle, if_neg (by decide), if_neg (by decide),
      Percent.encode_eq_self hname.encoded, ih fun x hx => hnames x (List.mem_cons_of_mem _ hx)]
    simp

/-- **Segments are read back.** -/
theorem readPath_segments (hnames : ∀ x ∈ names, IsSegment kind x)
    (hspecial : kind.isSpecial = true → names ≠ []) : readPath kind (UrlPath.segments names).text = names := by
  cases names with
  | nil =>
    have hother : kind.isSpecial = false := by
      by_contra h
      exact hspecial (by simpa using h) rfl
    change (if kind.isSpecial then [[]] else []) = _
    rw [hother, if_neg (by decide)]
  | cons name names =>
    have hslash : isSeparator kind '/' = true := by simp [isSeparator]
    change resolveDots [] (splitSegments kind (if isSeparator kind '/' then _ else _)) = _
    rw [hslash, if_pos rfl]
    exact (congrArg (resolveDots []) (splitSegments_flatMap (hnames name List.mem_cons_self)
      fun x hx => hnames x (List.mem_cons_of_mem _ hx))).trans (resolveDots_segments hnames)

end Checkout.Url
