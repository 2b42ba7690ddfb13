/-!
# Numbered slots

A table of slots, few of which are taken, is a tree that branches by the binary digits of the number
of a slot, the last digit first.
-/

namespace OrderedChoice.Pattern

/-- **Slots** that hold values. -/
inductive Slots (α : Type) where
  /-- No slot is taken. -/
  | none
  /-- The value of the slot whose digits lead here, and the slots with one more digit. -/
  | node (value : Option α) (even odd : Slots α)

namespace Slots

/-- **Value in a slot.** -/
def get? {α : Type} (slots : Slots α) : Nat → Nat → Option α
  | digits, number =>
    match digits, slots with
    | _, .none => Option.none
    | 0, .node value _ _ => value
    | digits + 1, .node _ even odd =>
      if number % 2 = 0 then even.get? digits (number / 2) else odd.get? digits (number / 2)

/-- The two branches of a tree. -/
def split {α : Type} : Slots α → Slots α × Slots α
  | .none => (.none, .none)
  | .node _ even odd => (even, odd)

/-- **Puts a value into a slot**, the number of which has the given count of digits. -/
def put {α : Type} (value : α) : Nat → Nat → Slots α → Slots α
  | 0, _, _ => .node (some value) .none .none
  | digits + 1, number, slots =>
    let (even, odd) := slots.split
    if number % 2 = 0 then .node Option.none (put value digits (number / 2) even) odd
    else .node Option.none even (put value digits (number / 2) odd)

end Slots

end OrderedChoice.Pattern
