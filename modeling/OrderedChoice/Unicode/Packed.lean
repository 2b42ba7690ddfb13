import OrderedChoice.CharSet

/-!
# Packed tables

The tables of character properties are long, so they are kept as lines of letters. A number is
written in base sixteen with the letters from A (zero) to P (fifteen); every digit but the last is
in lower case, so an upper-case letter ends a number.

A range list is packed as two numbers per range: how many code points lie between the range and
the one before, and how many code points follow the first one in the range.
-/

namespace OrderedChoice.Unicode

/-- Reads packed numbers; `acc` is the part of the current number that has been read. -/
def unpackNumbers (acc : Nat) : List Char → List Nat
  | [] => []
  | c :: cs =>
    if c.toNat < 0x60 then (acc * 16 + (c.toNat - 0x41)) :: unpackNumbers 0 cs
    else unpackNumbers (acc * 16 + (c.toNat - 0x61)) cs

/-- Places ranges one after the other, the first one at distance `gap` from `next`. -/
def placeRanges (next : Nat) : List Nat → List CodeRange
  | gap :: more :: rest =>
    ⟨next + gap, next + gap + more⟩ :: placeRanges (next + gap + more + 1) rest
  | _ => []

/-- **Packed table**: sets under their names, as lines of packed range lists. -/
abbrev PackedTable := List (String × List String)

/-- The numbers on some lines; a number may go on from one line to the next. -/
def unpackLines (lines : List String) : List Nat := unpackNumbers 0 (lines.flatMap (·.toList))

/-- **The set of a packed range list.** -/
def unpackSet (lines : List String) : CharSet := ⟨placeRanges 0 (unpackLines lines)⟩

/-- The set that a table lists under a name. -/
def lookupSet? (table : PackedTable) (name : String) : Option CharSet :=
  (table.lookup name).map unpackSet

end OrderedChoice.Unicode
