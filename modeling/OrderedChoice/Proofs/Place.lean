import Mathlib.Order.Basic
import OrderedChoice.Parse.Place

/-!
# The order of places

Everything that reads a source text moves forward in it. A place lies **behind** another one if
the text between the two has been taken up: the texts that are left and the offsets then differ by
that text. This is a partial order, written `≤`, and a place belongs to a text if it lies behind
the beginning of the text.

* `Place.advance_le`, `Place.skipBlanks_le`, `Place.skipText?_le`, `Place.findText?_le`,
  `Place.skipLine_le`: the moves go forward.
* `Place.At.eq_ofOffset`: a place of a text is known by its offset, so what is said about places
  can be said about offsets.
* `Text.IsBoundary`: the offsets that places have are those that cut no character.
-/

namespace OrderedChoice

namespace Text

/-- **Boundary of a text**: an offset at which a character begins or the text ends. -/
def IsBoundary (text : List Char) (offset : Nat) : Prop :=
  ∃ before after, text = before ++ after ∧ offset = byteLength before

theorem isBoundary_zero (text : List Char) : IsBoundary text 0 :=
  ⟨[], text, rfl, rfl⟩

theorem isBoundary_byteLength (text : List Char) : IsBoundary text (byteLength text) :=
  ⟨text, [], by simp, rfl⟩

/-- Only the empty text has no bytes. -/
theorem byteLength_eq_zero {text : List Char} (h : byteLength text = 0) : text = [] := by
  cases text with
  | nil => rfl
  | cons c cs =>
    have hpos := c.utf8Size_pos
    rw [byteLength_cons] at h
    omega

end Text

namespace Place

/-! ### The order -/

/-- **A place lies behind another one** if the text between the two has been taken up. -/
instance : LE Place :=
  ⟨fun p q => ∃ taken, p.rest = taken ++ q.rest ∧ q.offset = p.offset + Text.byteLength taken⟩

theorem le_def {p q : Place} :
    p ≤ q ↔ ∃ taken, p.rest = taken ++ q.rest ∧ q.offset = p.offset + Text.byteLength taken :=
  Iff.rfl

theorem offset_le {p q : Place} (h : p ≤ q) : p.offset ≤ q.offset := by
  obtain ⟨taken, -, hoffset⟩ := h
  omega

theorem length_rest_le {p q : Place} (h : p ≤ q) : q.rest.length ≤ p.rest.length := by
  obtain ⟨taken, hrest, -⟩ := h
  rw [hrest, List.length_append]
  omega

/-- Two places of which one lies behind the other are told apart by their offsets. -/
theorem eq_of_offset_eq {p q : Place} (h : p ≤ q) (hoffset : p.offset = q.offset) : p = q := by
  -- What lies between the two has no bytes, so there is nothing between them.
  obtain ⟨taken, hrest, htaken⟩ := h
  have hnil : taken = [] := Text.byteLength_eq_zero (by omega)
  subst hnil
  cases p
  cases q
  simp_all

instance : PartialOrder Place where
  le_refl p := ⟨[], rfl, rfl⟩
  le_trans p q r := by
    rintro ⟨first, hq, hqo⟩ ⟨second, hr, hro⟩
    refine ⟨first ++ second, ?_, ?_⟩
    · rw [hq, hr, List.append_assoc]
    · rw [hro, hqo, Text.byteLength_append, Nat.add_assoc]
  le_antisymm p q hpq hqp :=
    eq_of_offset_eq hpq (Nat.le_antisymm (offset_le hpq) (offset_le hqp))

/-! ### The moves go forward -/

theorem advance_le (p : Place) (n : Nat) : p ≤ p.advance n :=
  ⟨p.rest.take n, (List.take_append_drop n p.rest).symm, rfl⟩

/-- Taking up one character. -/
theorem cons_le (offset : Nat) (c : Char) (cs : List Char) :
    (⟨offset, c :: cs⟩ : Place) ≤ ⟨offset + c.utf8Size, cs⟩ :=
  ⟨[c], rfl, rfl⟩

theorem skipWhile_le (p : Char → Bool) (offset : Nat) (text : List Char) :
    (⟨offset, text⟩ : Place) ≤ skipWhile p offset text := by
  induction text generalizing offset with
  | nil => exact le_refl _
  | cons c cs ih =>
    rw [skipWhile]
    split
    · exact (cons_le offset c cs).trans (ih _)
    · exact le_refl _

theorem skipBlanks_le (p : Place) : p ≤ p.skipBlanks :=
  skipWhile_le Text.isBlank p.offset p.rest

theorem skipText?_le {mark : List Char} {p q : Place} (h : p.skipText? mark = some q) :
    p ≤ q := by
  obtain ⟨rest, hrest, rfl⟩ := Option.map_eq_some_iff.1 h
  exact ⟨mark, Text.dropPrefix?_eq_some hrest, rfl⟩

theorem findText?_le {mark : List Char} {offset : Nat} {text : List Char} {q : Place}
    (h : findText? mark offset text = some q) : ⟨offset, text⟩ ≤ q := by
  induction text generalizing offset with
  | nil => exact skipText?_le h
  | cons c cs ih =>
    rw [findText?] at h
    split at h
    · -- The mark stands here.
      next next hnext =>
      rw [← Option.some.inj h]
      exact skipText?_le hnext
    · -- It stands further on: one character is taken up before it is looked for again.
      exact (cons_le offset c cs).trans (ih h)

theorem skipLine_le (offset : Nat) (text : List Char) :
    (⟨offset, text⟩ : Place) ≤ skipLine offset text := by
  induction text generalizing offset with
  | nil => exact le_refl _
  | cons c cs ih =>
    rw [skipLine]
    split
    · exact cons_le offset c cs
    · exact (cons_le offset c cs).trans (ih _)

/-! ### Places of a text -/

theorem at_iff_begin_le {text : List Char} {p : Place} : p.At text ↔ begin text ≤ p := by
  rw [At, le_def]
  simp only [begin, Nat.zero_add]

theorem At.of_le {text : List Char} {p q : Place} (hp : p.At text) (h : p ≤ q) : q.At text :=
  at_iff_begin_le.2 ((at_iff_begin_le.1 hp).trans h)

theorem At.isBoundary {text : List Char} {p : Place} (h : p.At text) :
    Text.IsBoundary text p.offset := by
  obtain ⟨before, htext, hoffset⟩ := h
  exact ⟨before, p.rest, htext, hoffset⟩

/-- A place of a text lies behind so many of its characters. -/
theorem At.exists_advance {text : List Char} {p : Place} (h : p.At text) :
    ∃ n ≤ text.length, p = (begin text).advance n := by
  obtain ⟨before, htext, hoffset⟩ := h
  refine ⟨before.length, ?_, ?_⟩
  · rw [htext, List.length_append]
    omega
  · rw [Place.advance, begin, htext, List.take_left, List.drop_left, Nat.zero_add, ← hoffset]

/-- The text in front of a place and the text behind it make up the whole. -/
theorem At.offset_add_byteLength {text : List Char} {p : Place} (h : p.At text) :
    p.offset + Text.byteLength p.rest = Text.byteLength text := by
  obtain ⟨before, htext, hoffset⟩ := h
  rw [htext, hoffset, Text.byteLength_append]

/-- At the end of the text the offset is its length. -/
theorem At.offset_of_rest_nil {text : List Char} {p : Place} (h : p.At text) (hrest : p.rest = []) :
    p.offset = Text.byteLength text := by
  rw [← h.offset_add_byteLength, hrest, Text.byteLength_nil, Nat.add_zero]

/-- Only at the end of the text the offset is its length. -/
theorem At.rest_nil_of_offset {text : List Char} {p : Place} (h : p.At text)
    (hoffset : p.offset = Text.byteLength text) : p.rest = [] := by
  rw [← h.offset_add_byteLength] at hoffset
  exact Text.byteLength_eq_zero (by omega)

/-- **Place of a text at an offset.** -/
def ofOffset (text : List Char) (offset : Nat) : Place := ⟨offset, Text.dropBytes offset text⟩

@[simp] theorem ofOffset_offset (text : List Char) (offset : Nat) :
    (ofOffset text offset).offset = offset := rfl

theorem At.dropBytes {text : List Char} {p : Place} (h : p.At text) :
    Text.dropBytes p.offset text = p.rest := by
  obtain ⟨before, htext, hoffset⟩ := h
  rw [hoffset, htext, Text.dropBytes_append]

/-- **A place of a text is the one at its offset.** -/
theorem At.eq_ofOffset {text : List Char} {p : Place} (h : p.At text) :
    p = ofOffset text p.offset := by
  rw [ofOffset, h.dropBytes]

/-- Of two places of a text the one with the greater offset lies behind the other. -/
theorem At.le_of_offset_le {text : List Char} {p q : Place} (hp : p.At text) (hq : q.At text)
    (h : p.offset ≤ q.offset) : p ≤ q := by
  obtain ⟨before, htext, hoffset⟩ := hp
  obtain ⟨before', htext', hoffset'⟩ := hq
  -- The text is cut twice, so one of the two first parts goes on from the other.
  rcases List.append_eq_append_iff.1 (htext.symm.trans htext') with
    ⟨taken, rfl, hrest⟩ | ⟨taken, rfl, hrest⟩
  · refine ⟨taken, hrest, ?_⟩
    rw [hoffset', hoffset, Text.byteLength_append]
  · -- Here the greater offset can only be the same one.
    rw [Text.byteLength_append] at hoffset
    have hnil : taken = [] := Text.byteLength_eq_zero (by omega)
    subst hnil
    refine ⟨[], hrest.symm, ?_⟩
    rw [hoffset', hoffset, Text.byteLength_nil]
    rfl

/-- The text between two places, and then what is left behind the second. -/
theorem At.slice_append {text : List Char} {p q : Place} (hp : p.At text) (h : p ≤ q) :
    Text.slice p.offset q.offset text ++ q.rest = p.rest := by
  obtain ⟨taken, hrest, hoffset⟩ := h
  rw [Text.slice, hp.dropBytes, hoffset, Nat.add_sub_cancel_left, hrest, Text.takeBytes_append]

theorem at_ofOffset {text : List Char} {offset : Nat} (h : Text.IsBoundary text offset) :
    (ofOffset text offset).At text := by
  obtain ⟨before, after, htext, hoffset⟩ := h
  refine ⟨before, ?_, hoffset⟩
  rw [ofOffset, hoffset, htext, Text.dropBytes_append]

end Place

end OrderedChoice
