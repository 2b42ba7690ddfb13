import OrderedChoice.Text.Blank
import OrderedChoice.Text.Numeral
import OrderedChoice.Pattern.Ast

/-!
# Reading a pattern: the cursor

A reader walks over the characters of a pattern. It can refuse the pattern, and it knows whether
blanks and comments are to be skipped. Loops that skip are bounded by the number of characters
that are left.
-/

namespace OrderedChoice.Pattern

/-- **What a reader knows** between two characters of a pattern. -/
structure ReadState where
  /-- The characters that have not been read. -/
  rest : List Char
  /-- Whether blanks and comments are skipped. -/
  verbose : Bool
  /-- The names that groups have so far. -/
  names : List String

/-- **Readers** of parts of a pattern; no result means that the pattern is refused. -/
abbrev Reader (α : Type) := StateT ReadState Option α

namespace Reader

/-- Refuses the pattern. -/
def refuse {α : Type} : Reader α := fun _ => none

/-- Refuses the pattern unless a condition holds. -/
def require (condition : Bool) : Reader Unit :=
  if condition then pure () else refuse

/-- The next character, if there is one. -/
def peek? : Reader (Option Char) := do
  return (← get).rest.head?

/-- The next character, which must exist. -/
def peek : Reader Char := do
  match ← peek? with
  | some c => return c
  | none => refuse

/-- Moves over one character. -/
def advance : Reader Unit :=
  modify fun s => { s with rest := s.rest.tail }

/-- What follows blanks and comments; a comment runs from a number sign to the end of its line. -/
def dropComments (inComment : Bool) : List Char → List Char
  | [] => []
  | c :: cs =>
    if inComment then dropComments (c ≠ '\n') cs
    else if Text.isBlank c then dropComments false cs
    else if c = '#' then dropComments true cs
    else c :: cs

/-- Moves over blanks and comments, if they are skipped. -/
def skipBlanks : Reader Unit :=
  modify fun s => if s.verbose then { s with rest := dropComments false s.rest } else s

/-- Moves over one character and what may be skipped after it. -/
def advanceSkip : Reader Unit := do
  advance
  skipBlanks

/-- At most `bound` characters of a class, skipping what may be skipped after each of them. -/
def takeWhileWithin (p : Char → Bool) : Nat → Reader (List Char)
  | 0 => return []
  | bound + 1 => do
    match ← peek? with
    | none => return []
    | some c =>
      if p c then
        advanceSkip
        return c :: (← takeWhileWithin p bound)
      else
        return []

/-- The characters of a class that come next, skipping what may be skipped after each of them. -/
def takeWhile (p : Char → Bool) : Reader (List Char) := do
  takeWhileWithin p (← get).rest.length

/-- Moves over white space, whether or not blanks are skipped. -/
def skipWhite : Reader Unit :=
  modify fun s => { s with rest := s.rest.dropWhile Text.isBlank }

/-- The value of decimal digits. -/
def decimalValue (digits : List Char) : Nat :=
  digits.foldl (fun n c => n * 10 + (c.toNat - '0'.toNat)) 0

/-- **Decimal number** below two to the thirty-second, with white space around it. -/
def decimal : Reader Nat := do
  skipWhite
  let digits ← takeWhile Char.isDigit
  skipWhite
  require (!digits.isEmpty)
  let n := decimalValue digits
  require (n < 0x100000000)
  return n

/-- The character with a code point, if it is one. -/
def charOf? (code : Nat) : Option Char :=
  if code.isValidChar then some (Char.ofNat code) else none

/-- The character that hexadecimal digits stand for. -/
def hexChar (digits : List Char) : Reader Char :=
  match (Text.hexNumber? digits).bind charOf? with
  | some c => return c
  | none => refuse

/-- A number of characters, skipping what may be skipped after each of them. -/
def takeExactly : Nat → Reader (List Char)
  | 0 => return []
  | n + 1 => do
    let c ← peek
    advanceSkip
    return c :: (← takeExactly n)

end Reader

end OrderedChoice.Pattern
