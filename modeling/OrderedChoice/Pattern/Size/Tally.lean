/-!
# The size of a machine

A pattern is matched byte by byte by a machine of states. A state takes 32 bytes, each branch of a
state four more, and each range of bytes that a state tells apart eight more. States are numbered in
the order in which they are added.
-/

namespace OrderedChoice.Pattern

/-- **Tally of a machine** that is being built. -/
structure Tally where
  /-- How many states there are, which is also the number of the next one. -/
  states : Nat
  /-- How many bytes the branches and ranges of the states take. -/
  extra : Nat

namespace Tally

/-- A tally with more states, and more bytes of branches and ranges. -/
def add (tally : Tally) (states extra : Nat) : Tally :=
  ⟨tally.states + states, tally.extra + extra⟩

/-- **Size in bytes.** -/
def size (tally : Tally) : Nat := 32 * tally.states + tally.extra

/-- A machine that is larger than this is refused. -/
def maxSize : Nat := 10 * 1024 * 1024

/-- **Whether a machine is too large.** -/
def exceeds (tally : Tally) : Bool := maxSize < tally.size

/-- Adds something `n` times, but nothing to a machine that is too large already. -/
def addTimes (step : Tally → Tally) : Nat → Tally → Tally
  | 0, tally => tally
  | n + 1, tally => if tally.exceeds then tally else addTimes step n (step tally)

end Tally

end OrderedChoice.Pattern
