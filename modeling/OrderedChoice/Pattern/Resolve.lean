import OrderedChoice.Unicode.Folding
import OrderedChoice.Pattern.Ast
import OrderedChoice.Pattern.Regex

/-!
# Applying the flags of a pattern

Flags are set for a group or for the rest of one, so the pattern tree is walked from left to right
with the current flags in hand. The walk refuses properties that do not exist and, where a pattern
is not about all characters, everything that could match a part of a character.
-/

namespace OrderedChoice.Pattern

/-- **Current flags.** -/
structure Flags where
  ignoreCase : Bool
  multiLine : Bool
  dotAll : Bool
  swapGreed : Bool
  carriageReturn : Bool
  unicode : Bool
  deriving DecidableEq

namespace Flags

/-- The flags at the start of a pattern. -/
def initial : Flags := ⟨false, false, false, false, false, true⟩

/-- The flags after one has been set. -/
def apply (flags : Flags) : Flag × Bool → Flags
  | (.ignoreCase, value) => { flags with ignoreCase := value }
  | (.multiLine, value) => { flags with multiLine := value }
  | (.dotAll, value) => { flags with dotAll := value }
  | (.swapGreed, value) => { flags with swapGreed := value }
  | (.carriageReturn, value) => { flags with carriageReturn := value }
  | (.unicode, value) => { flags with unicode := value }
  | (.verbose, _) => flags

/-- The flags after some have been set. -/
def applyAll (flags : Flags) (changes : FlagSettings) : Flags :=
  changes.foldl apply flags

/-- A set with the other cases of its letters, if case does not matter. -/
def fold (flags : Flags) (set : CharSet) : CharSet :=
  if flags.ignoreCase then
    if flags.unicode then Unicode.withCaseVariants set else Unicode.withAsciiVariants set
  else
    set

/-- **Finished class**: case first, then the complement. A class of bytes has to be ASCII. -/
def finish (flags : Flags) (negated : Bool) (set : CharSet) : Option CharSet :=
  let folded := flags.fold set
  let set := if negated then folded.complement else folded
  if flags.unicode || set.isAscii then some set else none

end Flags

/-- The character that a literal stands for. A byte beyond ASCII is only a part of one. -/
def Literal.resolve (flags : Flags) (literal : Literal) : Option Char :=
  if !flags.unicode && literal.asByte && 0x7F < literal.char.toNat then none
  else some literal.char

/-- The character of a literal between brackets, which is ASCII in a class of bytes. -/
def Literal.resolveInClass (flags : Flags) (literal : Literal) : Option Char := do
  let c ← literal.resolve flags
  if flags.unicode || c.toNat < 0x80 then some c else none

/-- The characters of a shorthand class. -/
def Shorthand.set (unicode : Bool) : Shorthand → CharSet
  | .digit => if unicode then Unicode.digits else ⟨[⟨0x30, 0x39⟩]⟩
  | .space => if unicode then Text.blanks else ⟨[⟨0x9, 0xD⟩, ⟨0x20, 0x20⟩]⟩
  | .word => if unicode then Unicode.wordChars else asciiWordChars

/-- **Characters of a class with a name.** -/
def NamedClass.resolve (flags : Flags) (named : NamedClass) : Option CharSet :=
  match named.name with
  | .shorthand kind =>
    -- These classes hold both cases of their letters already.
    { flags with ignoreCase := false }.finish named.negated (kind.set flags.unicode)
  | .ascii set => flags.finish named.negated set
  | .property name =>
    if flags.unicode then (Unicode.named? name).bind (flags.finish named.negated) else none
  | .propertyValue property value =>
    if flags.unicode then (Unicode.withValue? property value).bind (flags.finish named.negated)
    else none

/-- The set operation. -/
def SetOp.apply : SetOp → CharSet → CharSet → CharSet
  | .intersection => CharSet.inter
  | .difference => CharSet.diff
  | .symmetricDifference => CharSet.symmDiff

/-- **Characters between brackets.** -/
def ClassBody.resolve (flags : Flags) : ClassBody → Option CharSet
  | .empty => some .empty
  | .literal value => (value.resolveInClass flags).map .singleton
  | .range lo hi => do return .range (← lo.resolveInClass flags) (← hi.resolveInClass flags)
  | .named value => value.resolve flags
  | .nested negated body => do flags.finish negated (← body.resolve flags)
  | .union items last => do return (← items.resolve flags).union (← last.resolve flags)
  | .combine op left right => do
    return op.apply (flags.fold (← left.resolve flags)) (flags.fold (← right.resolve flags))

/-- **Condition of an anchor.** -/
def Anchor.resolve (flags : Flags) : Anchor → Look
  | .lineStart => if flags.multiLine then .lineStart flags.carriageReturn else .textStart
  | .lineEnd => if flags.multiLine then .lineEnd flags.carriageReturn else .textEnd
  | .textStart => .textStart
  | .textEnd => .textEnd
  | .wordEdge => .edge .either flags.unicode
  | .notWordEdge => .edge .neither flags.unicode
  | .wordStart => .edge .start flags.unicode
  | .wordEnd => .edge .stop flags.unicode
  | .wordStartHalf => .edge .startHalf flags.unicode
  | .wordEndHalf => .edge .stopHalf flags.unicode

/-- The characters that the dot matches. -/
def dotSet (flags : Flags) : CharSet :=
  if flags.dotAll then .full
  else if flags.carriageReturn then (CharSet.union (.singleton '\n') (.singleton '\r')).complement
  else (CharSet.singleton '\n').complement

/-- **Regular expression of a pattern tree**, and the flags after it. -/
def Ast.resolve (flags : Flags) : Ast → Option (Regex × Flags)
  | .empty => some (.empty, flags)
  | .settings changes => some (.empty, flags.applyAll changes)
  | .literal value => do
    return (.chars (!flags.unicode) (flags.fold (.singleton (← value.resolve flags))), flags)
  | .dot => if flags.unicode then some (.chars false (dotSet flags), flags) else none
  | .anchor value => some (.look (value.resolve flags), flags)
  | .named value => do return (.chars (!flags.unicode) (← value.resolve flags), flags)
  | .brackets negated body => do
    return (.chars (!flags.unicode) (← flags.finish negated (← body.resolve flags)), flags)
  | .quantified lo hi marked body => do
    let (regex, flags) ← body.resolve flags
    return (.repeated lo hi (marked == flags.swapGreed) regex, flags)
  | .group captures changes body => do
    let (regex, _) ← body.resolve (flags.applyAll changes)
    return (.group captures regex, flags)
  | .cat first rest => do
    let (first, flags) ← first.resolve flags
    let (rest, flags) ← rest.resolve flags
    return (.cat first rest, flags)
  | .alt first rest => do
    let (first, flags) ← first.resolve flags
    let (rest, flags) ← rest.resolve flags
    return (.alt first rest, flags)

end OrderedChoice.Pattern
