import OrderedChoice.Text.Utf8
import OrderedChoice.Pattern.Shape
import OrderedChoice.Pattern.Size.Class
import OrderedChoice.Pattern.Size.Words

/-!
# The size of a pattern

A pattern is refused if a machine that matches it would be too large: the one that reads the text
forward and remembers what groups match, or the one that reads it backward. The machines are not
built. Their states are counted from the simplified expression, in the order in which they would be
added, because the number of a state decides which other states it is remembered with.

* `Shape.fits` says whether a pattern is small enough.
-/

namespace OrderedChoice.Pattern

namespace Shape

/-- The bytes of a text in the order of reading. -/
def wordOf (backward : Bool) (chars : List Char) : List UInt8 :=
  let bytes := chars.flatMap String.utf8EncodeChar
  if backward then bytes.reverse else bytes

/-- The text that is all of an expression. -/
def text? : Shape → Option (List Char)
  | .text chars => some chars
  | _ => none

mutual

/-- **Adds the machine of an expression.** -/
def grow (backward : Bool) : Shape → Tally → Tally
  | .empty, tally | .look _, tally => tally.add 1 0
  | .text chars, tally => tally.add (Text.byteLength chars) 0
  | .oneOf _ set, tally => growSet backward set tally
  | .capture body, tally =>
    if backward then grow backward body tally
    else (grow backward body (tally.add 1 0)).add 1 0
  | .cat parts, tally =>
    if backward then growBackward parts tally else growForward parts tally
  | .alt branches, tally =>
    match branches.mapM text? with
    | some texts => growWords (texts.map (wordOf backward)) tally
    | none => growBranches backward 0 branches tally
  | .loop 0 none _ body, tally =>
    if body.consumes then grow backward body (tally.add 1 8)
    else (grow backward body tally).add 3 16
  | .loop lo none _ body, tally => (Tally.addTimes (grow backward body) lo tally).add 1 8
  | .loop 0 (some 1) _ body, tally => (grow backward body (tally.add 1 8)).add 1 0
  | .loop lo (some hi) _ body, tally =>
    if lo = hi then
      Tally.addTimes (grow backward body) lo tally
    else
      -- A loop that may be left at once still has a state to begin with.
      let tally := if lo = 0 then tally.add 1 0 else Tally.addTimes (grow backward body) lo tally
      Tally.addTimes (fun tally => grow backward body (tally.add 1 8)) (hi - lo) (tally.add 1 0)

/-- Adds the machines of some parts, the first one first. -/
def growForward : List Shape → Tally → Tally
  | [], tally => tally
  | part :: parts, tally => growForward parts (grow false part tally)

/-- Adds the machines of some parts, the last one first. -/
def growBackward : List Shape → Tally → Tally
  | [], tally => tally
  | part :: parts, tally => grow true part (growBackward parts tally)

/-- Adds the machines of some branches, `count` of them being done. The state that leads to the
branches and the one where they meet come after the second branch. -/
def growBranches (backward : Bool) (count : Nat) : List Shape → Tally → Tally
  | [], tally => tally
  | branch :: branches, tally =>
    let tally := (grow backward branch tally).add 0 4
    growBranches backward (count + 1) branches (if count = 1 then tally.add 2 0 else tally)

end

/-- The states with which a machine begins: one if it is tied to an end of the text, and otherwise
those that pass over any bytes. -/
def approach (isTied : Bool) : Tally := if isTied then ⟨1, 0⟩ else ⟨3, 16⟩

/-- **The machine that reads forward.** -/
def forward (shape : Shape) : Tally :=
  (grow false shape ((approach shape.startsAtText).add 1 0)).add 2 0

/-- **The machine that reads backward.** -/
def backward (shape : Shape) : Tally := (grow true shape (approach shape.endsAtText)).add 1 0

/-- **Whether a pattern is small enough.** -/
def fits (shape : Shape) : Bool := !shape.forward.exceeds && !shape.backward.exceeds

end Shape

end OrderedChoice.Pattern
