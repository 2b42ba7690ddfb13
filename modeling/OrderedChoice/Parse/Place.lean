import OrderedChoice.Text.Blank
import OrderedChoice.Text.Utf8

/-!
# Places in a source text

A place is a byte offset together with the text that follows it, so nothing has to be cut at an
offset while parsing. Moving takes whole characters from the front of that text, which is why an
offset never falls inside a character.

* `Place.At` says that a place belongs to a source text; every move keeps it.
-/

namespace OrderedChoice

/-- **Place in a source text.** -/
structure Place where
  /-- The byte offset. -/
  offset : Nat
  /-- The text from there on. -/
  rest : List Char
  deriving DecidableEq

namespace Place

/-- The place where a text begins. -/
def begin (text : List Char) : Place := ⟨0, text⟩

/-- The place behind the next `n` characters. -/
def advance (place : Place) (n : Nat) : Place :=
  ⟨place.offset + Text.byteLength (place.rest.take n), place.rest.drop n⟩

/-- Moves over the characters of a class. -/
def skipWhile (p : Char → Bool) (offset : Nat) : List Char → Place
  | [] => ⟨offset, []⟩
  | c :: cs => if p c then skipWhile p (offset + c.utf8Size) cs else ⟨offset, c :: cs⟩

/-- **Moves over white space.** -/
def skipBlanks (place : Place) : Place := skipWhile Text.isBlank place.offset place.rest

/-- The place behind a text, if it comes next. -/
def skipText? (mark : List Char) (place : Place) : Option Place :=
  (Text.dropPrefix? mark place.rest).map fun rest =>
    ⟨place.offset + Text.byteLength mark, rest⟩

/-- **The place behind the next occurrence of a text**, if it occurs. -/
def findText? (mark : List Char) (offset : Nat) : List Char → Option Place
  | [] => skipText? mark ⟨offset, []⟩
  | c :: cs =>
    match skipText? mark ⟨offset, c :: cs⟩ with
    | some place => some place
    | none => findText? mark (offset + c.utf8Size) cs

/-- **The place behind the next line feed**, or the end of the text. -/
def skipLine (offset : Nat) : List Char → Place
  | [] => ⟨offset, []⟩
  | c :: cs => if c = '\n' then ⟨offset + c.utf8Size, cs⟩ else skipLine (offset + c.utf8Size) cs

/-! ### Places of a text -/

/-- **The place belongs to the text**: its offset is the length of what comes before its rest. -/
def At (text : List Char) (place : Place) : Prop :=
  ∃ before, text = before ++ place.rest ∧ place.offset = Text.byteLength before

theorem at_begin (text : List Char) : (begin text).At text :=
  ⟨[], rfl, rfl⟩

theorem At.advance {text : List Char} {place : Place} (h : place.At text) (n : Nat) :
    (place.advance n).At text := by
  obtain ⟨before, htext, hoffset⟩ := h
  refine ⟨before ++ place.rest.take n, ?_, ?_⟩
  · simp [Place.advance, htext]
  · simp [Place.advance, hoffset]

theorem At.offset_le {text : List Char} {place : Place} (h : place.At text) :
    place.offset ≤ Text.byteLength text := by
  obtain ⟨before, htext, hoffset⟩ := h
  simp [htext, hoffset]

end Place

end OrderedChoice
