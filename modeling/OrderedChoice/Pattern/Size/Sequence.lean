import OrderedChoice.CharSet

/-!
# Byte sequences of a set

The characters of a range are told apart by the bytes of their UTF-8 forms. A range is cut into
blocks, each of which is a sequence of independent byte ranges: the first bytes of a block agree,
one byte varies in a range, and all bytes after that one vary freely.

* `sequencesOf` lists the sequences of a set in increasing order.
-/

namespace OrderedChoice.Pattern

/-- **Range of bytes**, both ends included. -/
structure ByteRange where
  /-- The first byte. -/
  lo : Nat
  /-- The last byte. -/
  hi : Nat
  deriving DecidableEq

/-- The byte after the first one that carries a digit in base 64, as a range of digits. -/
def trailing (lo hi : Nat) : ByteRange := ⟨0x80 + lo, 0x80 + hi⟩

/-- **Sequences of the code points from `lo` to `hi`** that have `rest` digits in base 64 after the
first one; `digit` makes the byte range of the first digit. -/
def blockSequences (digit : Nat → Nat → ByteRange) : Nat → Nat → Nat → List (List ByteRange)
  | 0, lo, hi => [[digit lo hi]]
  | rest + 1, lo, hi =>
    let unit := 64 ^ (rest + 1)
    let whole (first last : Nat) : List ByteRange :=
      digit first last :: List.replicate (rest + 1) (trailing 0 63)
    let within (first lo hi : Nat) : List (List ByteRange) :=
      (blockSequences trailing rest lo hi).map (digit first first :: ·)
    let first := lo / unit
    let last := hi / unit
    if first = last then
      if lo % unit = 0 ∧ hi % unit = unit - 1 then [whole first last]
      else within first (lo % unit) (hi % unit)
    else
      -- The ends of the range may fill their blocks only in part; what lies between is whole.
      let before := if lo % unit = 0 then [] else within first (lo % unit) (unit - 1)
      let after := if hi % unit = unit - 1 then [] else within last 0 (hi % unit)
      let begin := if lo % unit = 0 then first else first + 1
      let stop := if hi % unit = unit - 1 then last + 1 else last
      let between := if begin < stop then [whole begin (stop - 1)] else []
      before ++ between ++ after

/-- The code points whose UTF-8 forms have one length, with the number of bytes after the first one
and the least value of the first one. -/
def utf8Blocks : List (CodeRange × Nat × Nat) :=
  [(⟨0, 0x7F⟩, 0, 0), (⟨0x80, 0x7FF⟩, 1, 0xC0), (⟨0x800, 0xFFFF⟩, 2, 0xE0),
    (⟨0x10000, 0x10FFFF⟩, 3, 0xF0)]

/-- The sequences of a range of code points. -/
def rangeSequences (range : CodeRange) : List (List ByteRange) :=
  utf8Blocks.flatMap fun (block, rest, mark) =>
    let lo := max range.lo block.lo
    let hi := min range.hi block.hi
    if lo ≤ hi then blockSequences (fun first last => ⟨mark + first, mark + last⟩) rest lo hi
    else []

/-- **Byte sequences of a set** without surrogate code points, in increasing order. -/
def sequencesOf (set : CharSet) : List (List ByteRange) := set.ranges.flatMap rangeSequences

end OrderedChoice.Pattern
