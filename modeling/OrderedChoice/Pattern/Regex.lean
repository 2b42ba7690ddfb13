import OrderedChoice.Unicode.Property

/-!
# Regular expressions

What a pattern means once its flags are applied: an expression over sets of characters and
conditions on a place in the text.

* `Look.holds` decides a condition from the characters on both sides of the place.
* `Regex.repeated` builds a repetition, which is clipped where repeating cannot make a difference.
-/

namespace OrderedChoice.Pattern

/-- **Edges of words.** -/
inductive Edge where
  /-- A word character on exactly one side. -/
  | either
  /-- Word characters on both sides or on none. -/
  | neither
  /-- A word starts. -/
  | start
  /-- A word ends. -/
  | stop
  /-- No word goes on from the left. -/
  | startHalf
  /-- No word goes on to the right. -/
  | stopHalf
  deriving DecidableEq

/-- **Conditions on a place in the text.** -/
inductive Look where
  | textStart
  | textEnd
  /-- A line starts, where lines may end in a carriage return or not. -/
  | lineStart (carriageReturn : Bool)
  /-- A line ends, where lines may end in a carriage return or not. -/
  | lineEnd (carriageReturn : Bool)
  /-- An edge of words of all characters, or of ASCII characters. -/
  | edge (kind : Edge) (unicode : Bool)
  deriving DecidableEq

/-- The ASCII characters of words. -/
def asciiWordChars : CharSet :=
  ⟨[⟨0x30, 0x39⟩, ⟨0x41, 0x5A⟩, ⟨0x5F, 0x5F⟩, ⟨0x61, 0x7A⟩]⟩

/-- Whether there is a character of words. -/
def isWordChar (unicode : Bool) (c : Option Char) : Bool :=
  c.any (if unicode then Unicode.wordChars else asciiWordChars).contains

/-- Whether an edge has the given kind, when there is a word on the left and on the right. -/
def Edge.holds (left right : Bool) : Edge → Bool
  | .either => left != right
  | .neither => left == right
  | .start => !left && right
  | .stop => left && !right
  | .startHalf => !left
  | .stopHalf => !right

/-- **Whether a condition holds** between the character before a place and the one after it. -/
def Look.holds (before after : Option Char) : Look → Bool
  | .textStart => before.isNone
  | .textEnd => after.isNone
  | .lineStart false => before.isNone || before = some '\n'
  | .lineStart true =>
    before.isNone || before = some '\n' || (before = some '\r' && after ≠ some '\n')
  | .lineEnd false => after.isNone || after = some '\n'
  | .lineEnd true =>
    after.isNone || after = some '\r' || (after = some '\n' && before ≠ some '\r')
  | .edge kind unicode => kind.holds (isWordChar unicode before) (isWordChar unicode after)

/-- **Regular expression.** A sequence is a chain of `cat` to the right and a choice a chain of
`alt` to the right; the parts of a chain are never chains of the same kind, unless they stand in a
group. -/
inductive Regex where
  /-- The empty text. -/
  | empty
  /-- One character of a set. `asBytes` says that the set was asked for as one of bytes. -/
  | chars (asBytes : Bool) (set : CharSet)
  /-- The empty text where a condition holds. -/
  | look (condition : Look)
  /-- A group, which remembers what it matches or not. -/
  | group (captures : Bool) (body : Regex)
  /-- One after the other. -/
  | cat (first second : Regex)
  /-- The first one, or else the second. -/
  | alt (first second : Regex)
  /-- At least `lo` and at most `hi` times, as often as possible or as rarely as possible. -/
  | loop (lo : Nat) (hi : Option Nat) (greedy : Bool) (body : Regex)

namespace Regex

/-- Whether an expression matches nothing but the empty text. -/
def isZeroWidth : Regex → Bool
  | .empty | .look _ => true
  | .chars _ _ => false
  | .group _ body => body.isZeroWidth
  | .cat first second | .alt first second => first.isZeroWidth && second.isZeroWidth
  | .loop _ _ _ body => body.isZeroWidth

/-- Whether every match of an expression takes up a character. -/
def consumes : Regex → Bool
  | .empty | .look _ => false
  | .chars _ set => !set.isEmpty
  | .group _ body => body.consumes
  | .cat first second => first.consumes || second.consumes
  | .alt first second => first.consumes && second.consumes
  | .loop lo _ _ body => lo ≠ 0 && body.consumes

/-- **Repetition.** What matches only the empty text is not repeated more than once. -/
def repeated (lo : Nat) (hi : Option Nat) (greedy : Bool) (body : Regex) : Regex :=
  let (lo, hi) := if body.isZeroWidth then (min lo 1, some (min (hi.getD 1) 1)) else (lo, hi)
  if hi = some 0 then .empty
  else if lo = 1 ∧ hi = some 1 then body
  else .loop lo hi greedy body

end Regex

end OrderedChoice.Pattern
