import OrderedChoice.Pattern.Program

/-!
# Running the program of a pattern

The machine reads a text from its first character on and keeps a list of the ways through the
program that are still open, the preferred ones first. At each place a position of the program is
entered once, by the most preferred way that leads to it. A way that ends in a match drops the
ways that are preferred less, and the last match that is recorded is the one that counts.

* `matchLength?_le`: a match never reaches beyond the text.
-/

namespace OrderedChoice.Pattern

/-- **Ways that wait for a character** or have matched, from a list of positions of the program.
`before` and `after` are the characters around the place, `seen` marks the positions that have been
entered, and `waiting` collects the result, last first.

A round drops a position from the list or enters one that is new and adds two to the list at most,
so the length of the list and twice the length of the program bound the rounds. -/
def Program.closure (code : Program) (before after : Option Char) :
    Nat → List Nat → Array Bool → List Nat → List Nat
  | 0, _, _, waiting => waiting
  | _, [], _, waiting => waiting
  | bound + 1, i :: rest, seen, waiting =>
    if seen.getD i true then
      closure code before after bound rest seen waiting
    else
      let seen := seen.set! i true
      match code.getD i .accept with
      | .chars _ | .accept => closure code before after bound rest seen (i :: waiting)
      | .look condition =>
        if condition.holds before after then
          closure code before after bound ((i + 1) :: rest) seen waiting
        else
          closure code before after bound rest seen waiting
      | .jump target => closure code before after bound (target :: rest) seen waiting
      | .split first second =>
        closure code before after bound (first :: second :: rest) seen waiting

/-- **Open ways at a place**, the preferred ones first. -/
def Program.ways (code : Program) (before after : Option Char) (entries : List Nat) : List Nat :=
  (code.closure before after (entries.length + 2 * code.size) entries
    (Array.replicate code.size false) []).reverse

/-- Whether a way has come to a match. -/
def Program.accepts (code : Program) (i : Nat) : Bool :=
  match code.getD i .accept with
  | .accept => true
  | _ => false

/-- Where a way goes on after a character, if it can take it up. -/
def Program.step? (code : Program) (c : Char) (i : Nat) : Option Nat :=
  match code.getD i .accept with
  | .chars set => if set.contains c then some (i + 1) else none
  | _ => none

/-- **Length of the match** of a program, in characters, after `length` characters have been read.
`entries` are the positions to enter at this place and `best` is the match so far. -/
def Program.run (code : Program) (before : Option Char) (entries : List Nat) (length : Nat)
    (best : Option Nat) : List Char → Option Nat
  | [] =>
    if (code.ways before none entries).any code.accepts then some length else best
  | c :: text =>
    let ways := code.ways before (some c) entries
    let pending := ways.takeWhile (!code.accepts ·)
    let best := if ways.any code.accepts then some length else best
    match pending.filterMap (code.step? c) with
    | [] => best
    | entries => run code (some c) entries (length + 1) best text

/-- **Length of the preferred match at the front of a text**, in characters. -/
def Program.matchLength? (code : Program) (text : List Char) : Option Nat :=
  code.run none [0] 0 none text

/-! ### The match lies in the text -/

private theorem Program.run_le (code : Program) {before : Option Char} {entries : List Nat}
    {length bound n : Nat} {best : Option Nat} {text : List Char}
    (hbest : ∀ m, best = some m → m ≤ bound) (hbound : length + text.length ≤ bound)
    (h : code.run before entries length best text = some n) : n ≤ bound := by
  induction text generalizing before entries length best with
  | nil =>
    rw [run] at h
    split at h
    · simp only [Option.some.injEq] at h
      simp only [List.length_nil] at hbound
      omega
    · exact hbest n h
  | cons c text ih =>
    simp only [List.length_cons] at hbound
    -- The recorded match is the old one or the place reached so far.
    have hnew : ∀ m, (if (code.ways before (some c) entries).any code.accepts then some length
        else best) = some m → m ≤ bound := by
      intro m hm
      split at hm
      · simp only [Option.some.injEq] at hm
        omega
      · exact hbest m hm
    rw [run] at h
    split at h
    · exact hnew n h
    · exact ih hnew (by omega) h

/-- **A match never reaches beyond the text.** -/
theorem Program.matchLength?_le (code : Program) {text : List Char} {n : Nat}
    (h : code.matchLength? text = some n) : n ≤ text.length :=
  code.run_le (by simp) (by omega) h

end OrderedChoice.Pattern
