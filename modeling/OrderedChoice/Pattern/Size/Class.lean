import OrderedChoice.Pattern.Size.Sequence
import OrderedChoice.Pattern.Size.Slots
import OrderedChoice.Pattern.Size.Tally

/-!
# The machine of a set

A set of ASCII characters is one state that tells ranges of bytes apart, and one where it ends.
Other sets are read as sequences of bytes. Read forward, sequences that begin alike share states,
and a state that would do the same as an earlier one is that state. Read backward, each sequence
is a branch of its own, which shares the states of its last steps with earlier ones.

Earlier states are remembered in a table with a fixed number of slots, where a state takes the
slot that a hash of what it does gives. A later state with the same slot replaces it, so it may
happen that a state is added although there is an equal one.
-/

namespace OrderedChoice.Pattern

/-- A step of the hash of some numbers. -/
def mixHash (hash : UInt64) (n : Nat) : UInt64 := (hash ^^^ UInt64.ofNat n) * 1099511628211

/-- The slot, of some number of slots, of a list of numbers. -/
def slotOf (slots : Nat) (numbers : List Nat) : Nat :=
  (numbers.foldl mixHash 14695981039346656037).toNat % slots

/-- How many binary digits the number of a slot has, of some number of slots. -/
def slotDigits (slots : Nat) : Nat := slots.log2 + 1

/-- **Machine with a memory** of the states that it has: what the state that was last put into a
slot does, and its number. -/
structure Remembering where
  /-- The machine. -/
  tally : Tally
  /-- The slots that are taken. -/
  slots : Slots (List Nat × Nat)

namespace Remembering

/-- **State that does what `key` says**: one that is remembered, or else a new one, the ranges of
which take `extra` bytes. -/
def state (slots : Nat) (key : List Nat) (extra : Nat) (machine : Remembering) :
    Nat × Remembering :=
  let slot := slotOf slots key
  match (machine.slots.get? (slotDigits slots) slot).filter fun entry => entry.1 = key with
  | some (_, number) => (number, machine)
  | none =>
    let number := machine.tally.states
    (number, ⟨machine.tally.add 1 extra,
      .put (key, number) (slotDigits slots) slot machine.slots⟩)

end Remembering

/-! ### Forward -/

/-- Byte sequences by their first ranges: each range with what follows it. -/
def splitFronts : List (List ByteRange) → List (ByteRange × List (List ByteRange))
  | [] | [] :: _ => []
  | (front :: tail) :: rest =>
    match splitFronts rest with
    | [] => [(front, [tail])]
    | (next, tails) :: more =>
      if front = next then (front, tail :: tails) :: more
      else (front, [tail]) :: (next, tails) :: more

/-- **State that reads one of some sequences** of at most `depth` ranges and goes on at `target`.
The states that come later are added first. -/
def growTree (target : Nat) : Nat → List (List ByteRange) → Remembering → Nat × Remembering
  | 0, _, machine => (target, machine)
  | depth + 1, sequences, machine =>
    let (arcs, machine) := (splitFronts sequences).foldl (fun (arcs, machine) (front, tails) =>
      let (next, machine) :=
        if tails.all (·.isEmpty) then (target, machine) else growTree target depth tails machine
      ([front.lo, front.hi, next] :: arcs, machine)) ([], machine)
    machine.state 10000 arcs.reverse.flatten (8 * arcs.length)

/-- The machine of sequences of bytes that are read forward. -/
def growSequences (sequences : List (List ByteRange)) (tally : Tally) : Tally :=
  (growTree tally.states 4 sequences ⟨tally.add 1 0, .none⟩).2.tally

/-! ### Backward -/

/-- The states of a sequence that is read from its last range to its first, which leads to `next`.
-/
def growSteps : List ByteRange → Nat → Remembering → Remembering
  | [], _, machine => machine
  | range :: rest, next, machine =>
    let (number, machine) := machine.state 1000 [next, range.lo, range.hi] 0
    growSteps rest number machine

/-- The machine of sequences of bytes that are read backward. -/
def growReversed (sequences : List (List ByteRange)) (tally : Tally) : Tally :=
  let stop := tally.states + 1
  let machine := sequences.foldl (fun machine sequence => growSteps sequence stop machine)
    ⟨tally.add 2 0, .none⟩
  machine.tally.add 0 (4 * sequences.length)

/-- **The machine of a set.** -/
def growSet (backward : Bool) (set : CharSet) (tally : Tally) : Tally :=
  if set.isAscii then tally.add 2 (8 * set.ranges.length)
  else if backward then growReversed (sequencesOf set) tally
  else growSequences (sequencesOf set) tally

end OrderedChoice.Pattern
