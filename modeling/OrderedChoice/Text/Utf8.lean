/-!
# Byte offsets into a text

A text is a list of characters, and places in it are counted in the bytes of its UTF-8 form.
This module measures a text, cuts it at a byte offset and counts its lines.

* `byteLength` is additive over `++`, so offsets can be threaded from left to right.
* `dropBytes` and `takeBytes` at the length of a first part give back the two parts.
-/

namespace OrderedChoice.Text

/-- **Length in bytes** of the UTF-8 form of a text. -/
def byteLength : List Char → Nat
  | [] => 0
  | c :: cs => c.utf8Size + byteLength cs

/-- What is left of a text after its first `n` bytes. A character that is cut by the offset counts
as dropped. -/
def dropBytes : Nat → List Char → List Char
  | _, [] => []
  | n, c :: cs => if n = 0 then c :: cs else dropBytes (n - c.utf8Size) cs

/-- The first `n` bytes of a text. A character that is cut by the offset counts as taken. -/
def takeBytes : Nat → List Char → List Char
  | _, [] => []
  | n, c :: cs => if n = 0 then [] else c :: takeBytes (n - c.utf8Size) cs

/-- **The text between two byte offsets.** -/
def slice (start stop : Nat) (text : List Char) : List Char :=
  takeBytes (stop - start) (dropBytes start text)

/-- How many lines end in a text: its number of line feeds. -/
def lineFeeds (text : List Char) : Nat :=
  text.count '\n'

/-- **Zero-based line** of a byte offset. -/
def lineOf (offset : Nat) (text : List Char) : Nat :=
  lineFeeds (takeBytes offset text)

/-- `dropPrefix? p text` is what follows `p` in `text`, if `text` starts with `p`. -/
def dropPrefix? : List Char → List Char → Option (List Char)
  | [], text => some text
  | _ :: _, [] => none
  | p :: ps, c :: cs => if p = c then dropPrefix? ps cs else none

/-! ### Laws of cutting -/

@[simp] theorem byteLength_nil : byteLength [] = 0 := rfl

@[simp] theorem byteLength_cons (c : Char) (cs : List Char) :
    byteLength (c :: cs) = c.utf8Size + byteLength cs := rfl

@[simp] theorem byteLength_append (a b : List Char) :
    byteLength (a ++ b) = byteLength a + byteLength b := by
  induction a with
  | nil => simp
  | cons c cs ih => simp [ih, Nat.add_assoc]

/-- Dropping the bytes of a first part leaves the second. -/
@[simp] theorem dropBytes_append (a b : List Char) : dropBytes (byteLength a) (a ++ b) = b := by
  induction a with
  | nil => cases b <;> simp [dropBytes]
  | cons c cs ih =>
    have hpos := c.utf8Size_pos
    have hne : ¬ c.utf8Size + byteLength cs = 0 := by omega
    rw [byteLength_cons, List.cons_append, dropBytes, if_neg hne, Nat.add_sub_cancel_left, ih]

/-- Taking the bytes of a first part gives that part. -/
@[simp] theorem takeBytes_append (a b : List Char) : takeBytes (byteLength a) (a ++ b) = a := by
  induction a with
  | nil => cases b <;> simp [takeBytes]
  | cons c cs ih =>
    have hpos := c.utf8Size_pos
    have hne : ¬ c.utf8Size + byteLength cs = 0 := by omega
    rw [byteLength_cons, List.cons_append, takeBytes, if_neg hne, Nat.add_sub_cancel_left, ih]

theorem dropPrefix?_eq_some {p text rest : List Char} (h : dropPrefix? p text = some rest) :
    text = p ++ rest := by
  induction p generalizing text with
  | nil => simpa [dropPrefix?] using h
  | cons c cs ih =>
    cases text with
    | nil => simp [dropPrefix?] at h
    | cons d ds =>
      by_cases hcd : c = d
      · subst hcd
        simp only [dropPrefix?, if_pos] at h
        simp [ih h]
      · simp [dropPrefix?, hcd] at h

end OrderedChoice.Text
