import OrderedChoice.CharSet

/-!
# Pattern trees

What a pattern says, before its flags are applied: the tree that reading a pattern gives. The
nesting of that tree is bounded, so the module also measures it.
-/

namespace OrderedChoice.Pattern

/-- **Flags** that a pattern can switch on or off for a part of itself. -/
inductive Flag where
  /-- Letters match without regard to case. -/
  | ignoreCase
  /-- The line anchors also hold at line feeds. -/
  | multiLine
  /-- The dot also matches a line feed. -/
  | dotAll
  /-- A quantifier is lazy unless it is marked, instead of the other way round. -/
  | swapGreed
  /-- Classes and case are those of all characters and not of ASCII alone. -/
  | unicode
  /-- A line also ends at a carriage return. -/
  | carriageReturn
  /-- Blanks and comments in the pattern are skipped. -/
  | verbose
  deriving DecidableEq

/-- **Flag settings**: each flag that is named, and whether it is switched on. -/
abbrev FlagSettings := List (Flag × Bool)

/-- **Literal character.** A literal that is written as two hexadecimal digits stands for a byte
where the pattern is not about all characters. -/
structure Literal where
  /-- The character. -/
  char : Char
  /-- Whether it is written as two hexadecimal digits. -/
  asByte : Bool

/-- The literal that is written as the character itself. -/
def Literal.plain (c : Char) : Literal := ⟨c, false⟩

/-- **Anchors**: conditions on a place in the text that take up no character. -/
inductive Anchor where
  | lineStart
  | lineEnd
  | textStart
  | textEnd
  | wordEdge
  | notWordEdge
  | wordStart
  | wordEnd
  | wordStartHalf
  | wordEndHalf

/-- **Shorthand classes**, written as one escaped letter. -/
inductive Shorthand where
  | digit
  | space
  | word

/-- **Names of classes** inside and outside of brackets. -/
inductive ClassName where
  /-- A class with a one-letter escape. -/
  | shorthand (kind : Shorthand)
  /-- An ASCII class with a name between colons. -/
  | ascii (set : CharSet)
  /-- The characters with a property of this name. -/
  | property (name : String)
  /-- The characters that have this value of this property. -/
  | propertyValue (property value : String)

/-- **Class asked for by name**, or the complement of one. -/
structure NamedClass where
  /-- Whether the complement is meant. -/
  negated : Bool
  /-- The name. -/
  name : ClassName

/-- **Operations on sets** between brackets. -/
inductive SetOp where
  | intersection
  | difference
  | symmetricDifference

/-- **Contents of brackets.** -/
inductive ClassBody where
  /-- No item. -/
  | empty
  /-- One character. -/
  | literal (value : Literal)
  /-- The characters from one to another. -/
  | range (lo hi : Literal)
  /-- A class with a name. -/
  | named (value : NamedClass)
  /-- Brackets inside brackets. -/
  | nested (negated : Bool) (body : ClassBody)
  /-- One more item after others. -/
  | union (items last : ClassBody)
  /-- An operation on two sets. -/
  | combine (op : SetOp) (left right : ClassBody)

/-- **Pattern tree.** A sequence is a chain of `cat` to the right and a choice a chain of `alt` to
the right; the parts of a chain are never chains of the same kind themselves. -/
inductive Ast where
  /-- Nothing. -/
  | empty
  /-- Flags for the rest of the enclosing group. -/
  | settings (flags : FlagSettings)
  /-- One character. -/
  | literal (value : Literal)
  /-- Any character. -/
  | dot
  /-- A condition on the place. -/
  | anchor (value : Anchor)
  /-- A class with a name. -/
  | named (value : NamedClass)
  /-- A class in brackets. -/
  | brackets (negated : Bool) (body : ClassBody)
  /-- At least `lo` and at most `hi` times; `marked` if the quantifier has a question mark. -/
  | quantified (lo : Nat) (hi : Option Nat) (marked : Bool) (body : Ast)
  /-- A group with its own flags, which remembers what it matches or not. -/
  | group (captures : Bool) (flags : FlagSettings) (body : Ast)
  /-- One after the other. -/
  | cat (first rest : Ast)
  /-- The first one that leads to a match. -/
  | alt (first rest : Ast)

/-- **Nesting of brackets.** `inUnion` says that the body is the front of a longer list of items,
which counts as one level only. -/
def ClassBody.depth (inUnion : Bool) : ClassBody → Nat
  | .empty | .literal _ | .range _ _ | .named _ => 0
  | .nested _ body => 1 + body.depth false
  | .union items last =>
    (if inUnion then 0 else 1) + max (items.depth true) (last.depth false)
  | .combine _ left right => 1 + max (left.depth false) (right.depth false)

/-- Where a part of a pattern stands: at the end of a chain of the same kind it opens no level. -/
inductive Chain where
  | none
  | cat
  | alt
  deriving DecidableEq

/-- **Nesting of a pattern.** -/
def Ast.depth (chain : Chain) : Ast → Nat
  | .empty | .settings _ | .literal _ | .dot | .anchor _ | .named _ => 0
  | .brackets _ body => 1 + body.depth false
  | .quantified _ _ _ body => 1 + body.depth .none
  | .group _ _ body => 1 + body.depth .none
  | .cat first rest =>
    (if chain = .cat then 0 else 1) + max (first.depth .none) (rest.depth .cat)
  | .alt first rest =>
    (if chain = .alt then 0 else 1) + max (first.depth .none) (rest.depth .alt)

/-- A pattern with more levels than this is refused. -/
def maxDepth : Nat := 250

/-- The sequence of some parts. -/
def Ast.sequence : List Ast → Ast
  | [] => .empty
  | [part] => part
  | part :: parts => .cat part (sequence parts)

/-- The choice between some parts. -/
def Ast.choice : List Ast → Ast
  | [] => .empty
  | [part] => part
  | part :: parts => .alt part (choice parts)

end OrderedChoice.Pattern
