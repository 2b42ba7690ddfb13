/-!
# Sets of characters

A character set is a list of ranges of code points in increasing order, no two of which overlap or
touch. Union is a merge, complement fills the gaps, and the other operations come from these two.
-/

namespace OrderedChoice

/-- **Range of code points**, both ends included. -/
structure CodeRange where
  /-- The first code point. -/
  lo : Nat
  /-- The last code point. -/
  hi : Nat
  deriving DecidableEq

/-- **Set of characters** as ranges in increasing order that neither overlap nor touch. -/
structure CharSet where
  /-- The ranges. -/
  ranges : List CodeRange
  deriving DecidableEq

namespace CharSet

/-- The largest code point. -/
def maxCode : Nat := 0x10FFFF

/-- The set with no member. -/
def empty : CharSet := ⟨[]⟩

/-- Every character. -/
def full : CharSet := ⟨[⟨0, maxCode⟩]⟩

/-- The characters from `lo` to `hi`. -/
def range (lo hi : Char) : CharSet := ⟨[⟨lo.toNat, hi.toNat⟩]⟩

/-- The set of one character. -/
def singleton (c : Char) : CharSet := range c c

/-- Whether a set has no member. -/
def isEmpty (s : CharSet) : Bool := s.ranges.isEmpty

/-- Whether a code point lies in one of the ranges. The ranges are in order, so the search stops
at the first one that begins beyond the code point. -/
def inRanges (code : Nat) : List CodeRange → Bool
  | [] => false
  | r :: rs => if code < r.lo then false else code ≤ r.hi || inRanges code rs

/-- **Membership.** -/
def contains (s : CharSet) (c : Char) : Bool := inRanges c.toNat s.ranges

/-- The parts of a range that hold characters: surrogate code points are none. -/
def scalarParts (r : CodeRange) : List CodeRange :=
  (if r.lo ≤ 0xD7FF then [⟨r.lo, min r.hi 0xD7FF⟩] else []) ++
    (if 0xE000 ≤ r.hi then [⟨max r.lo 0xE000, r.hi⟩] else [])

/-- The set without surrogate code points. -/
def scalars (s : CharSet) : CharSet := ⟨s.ranges.flatMap scalarParts⟩

/-- Whether every member is an ASCII character. -/
def isAscii (s : CharSet) : Bool := s.ranges.all (·.hi < 0x80)

/-- Merges the ranges `x :: xs` with a list, when `merged` merges `xs` with any list. -/
def mergeInto (x : CodeRange) (xs : List CodeRange) (merged : List CodeRange → List CodeRange) :
    List CodeRange → List CodeRange
  | [] => x :: xs
  | y :: ys => if x.lo ≤ y.lo then x :: merged (y :: ys) else y :: mergeInto x xs merged ys

/-- Merges two lists of ranges in the order of their first code points. -/
def mergeRanges : List CodeRange → List CodeRange → List CodeRange
  | [] => id
  | x :: xs => mergeInto x xs (mergeRanges xs)

/-- Joins ranges that overlap or touch, `current` being the one that may still grow. -/
def coalesce (current : CodeRange) : List CodeRange → List CodeRange
  | [] => [current]
  | r :: rs =>
    if r.lo ≤ current.hi + 1 then coalesce ⟨current.lo, max current.hi r.hi⟩ rs
    else current :: coalesce r rs

/-- **Union.** -/
def union (a b : CharSet) : CharSet :=
  match mergeRanges a.ranges b.ranges with
  | [] => empty
  | r :: rs => ⟨coalesce r rs⟩

/-- The gaps from `next` on between ranges. -/
def gaps (next : Nat) : List CodeRange → List CodeRange
  | [] => if next ≤ maxCode then [⟨next, maxCode⟩] else []
  | r :: rs => if next < r.lo then ⟨next, r.lo - 1⟩ :: gaps (r.hi + 1) rs else gaps (r.hi + 1) rs

/-- **Complement.** -/
def complement (s : CharSet) : CharSet := ⟨gaps 0 s.ranges⟩

/-- **Intersection.** -/
def inter (a b : CharSet) : CharSet := (a.complement.union b.complement).complement

/-- **Difference.** -/
def diff (a b : CharSet) : CharSet := a.inter b.complement

/-- **Symmetric difference.** -/
def symmDiff (a b : CharSet) : CharSet := (a.diff b).union (b.diff a)

/-- The union of many sets. -/
def unions (sets : List CharSet) : CharSet := sets.foldl union empty

end CharSet

end OrderedChoice
