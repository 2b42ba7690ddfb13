import OrderedChoice.Pattern.Regex

/-!
# Programs of patterns

A regular expression is turned into a list of instructions for a machine that follows all ways
through the expression at once. The code of an expression goes on behind its last instruction when
the expression has matched.

The order in which a split names its two ways is the order in which they are preferred. A loop
whose body can match the empty text is entered by a split of its own, so that going round without
taking up text leaves the loop.
-/

namespace OrderedChoice.Pattern

/-- **Instruction.** Targets are positions in the program. -/
inductive Instr where
  /-- Takes up one character of a set. -/
  | chars (set : CharSet)
  /-- Goes on if a condition holds. -/
  | look (condition : Look)
  /-- Goes on at the first target, or else at the second. -/
  | split (first second : Nat)
  /-- Goes on at the target. -/
  | jump (target : Nat)
  /-- A match. -/
  | accept
  deriving DecidableEq

/-- **Program.** -/
abbrev Program := Array Instr

namespace Program

/-- The split between going on with a loop and leaving it. -/
def choose (greedy : Bool) (more done : Nat) : Instr :=
  if greedy then .split more done else .split done more

/-- The code of `n` copies of what `emit` appends. -/
def copies (emit : Program → Program) : Nat → Program → Program
  | 0, code => code
  | n + 1, code => copies emit n (emit code)

/-- The code of up to `n` copies of what `emit` appends, each of them optional; positions of the
splits that lead to the end come last first. -/
def optionals (emit : Program → Program) : Nat → Program × List Nat → Program × List Nat
  | 0, state => state
  | n + 1, (code, exits) =>
    let exit := code.size
    optionals emit n (emit (code.push .accept), exit :: exits)

/-- **Code of an expression**, appended to what comes before it. -/
def emit : Regex → Program → Program
  | .empty, code => code
  | .chars _ set, code => code.push (.chars set)
  | .look condition, code => code.push (.look condition)
  | .group _ body, code => emit body code
  | .cat first second, code => emit second (emit first code)
  | .alt first second, code =>
    let branch := code.size
    let code := emit first (code.push .accept)
    let skip := code.size
    let code := emit second ((code.push .accept).set! branch (.split (branch + 1) (skip + 1)))
    code.set! skip (.jump code.size)
  | .loop lo none greedy body, code =>
    if lo = 0 then
      let enter := code.size
      let code := emit body (code.push .accept)
      if body.consumes then
        let code := code.push (.jump enter)
        code.set! enter (choose greedy (enter + 1) code.size)
      else
        let code := code.push (choose greedy (enter + 1) (code.size + 1))
        code.set! enter (choose greedy (enter + 1) code.size)
    else
      let code := copies (emit body) (lo - 1) code
      let again := code.size
      let code := emit body code
      code.push (choose greedy again (code.size + 1))
  | .loop lo (some hi) greedy body, code =>
    let (code, exits) := optionals (emit body) (hi - lo) (copies (emit body) lo code, [])
    exits.foldl (fun code i => code.set! i (choose greedy (i + 1) code.size)) code

/-- **Program of an expression.** -/
def ofRegex (regex : Regex) : Program := (emit regex #[]).push .accept

end Program

end OrderedChoice.Pattern
