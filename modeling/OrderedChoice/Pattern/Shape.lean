import OrderedChoice.Text.Utf8
import OrderedChoice.Pattern.Regex

/-!
# Simplified expressions

How large a pattern is depends on its expression in a simplified form. A sequence has no empty part
and no sequence as a part, and neighbouring characters in it form one text. A choice has no choice
as a branch. A choice between characters is a set, and so is a choice between sets. Sequences that
begin with the same parts share them in front of the choice between what follows.

* `Shape.ofRegex` simplifies an expression.
* `Shape.isZeroWidth`, `Shape.minLength?`, `Shape.startsAtText` and `Shape.endsAtText` are what the
  size depends on beside the parts.
-/

namespace OrderedChoice.Pattern

/-- **Simplified expression.** -/
inductive Shape where
  /-- The empty text. -/
  | empty
  /-- A text that is not empty. -/
  | text (chars : List Char)
  /-- One character of a set that has none or more than one. -/
  | oneOf (asBytes : Bool) (set : CharSet)
  /-- The empty text where a condition holds. -/
  | look (condition : Look)
  /-- At least `lo` and at most `hi` times. -/
  | loop (lo : Nat) (hi : Option Nat) (greedy : Bool) (body : Shape)
  /-- A group that remembers what it matches. -/
  | capture (body : Shape)
  /-- At least two parts, one after the other. -/
  | cat (parts : List Shape)
  /-- The first of at least two branches that leads to a match. -/
  | alt (branches : List Shape)

namespace Shape

/-! ### Comparison -/

mutual

/-- **Whether two expressions are the same.** Two groups that remember what they match are not: each
has a memory of its own. -/
def same : Shape → Shape → Bool
  | .empty, .empty => true
  | .text a, .text b => a == b
  | .oneOf bytes a, .oneOf bytes' b => bytes == bytes' && decide (a = b)
  | .look a, .look b => decide (a = b)
  | .loop lo hi greedy a, .loop lo' hi' greedy' b =>
    lo == lo' && hi == hi' && greedy == greedy' && same a b
  | .cat a, .cat b => sameAll a b
  | .alt a, .alt b => sameAll a b
  | _, _ => false

/-- Whether two lists hold the same expressions in the same order. -/
def sameAll : List Shape → List Shape → Bool
  | [], [] => true
  | a :: as, b :: bs => same a b && sameAll as bs
  | _, _ => false

end

/-- The parts that two sequences have in common at their fronts. -/
def commonFront : List Shape → List Shape → List Shape
  | a :: as, b :: bs => if same a b then a :: commonFront as bs else []
  | _, _ => []

mutual

/-- How many expressions an expression is made of. -/
def weight : Shape → Nat
  | .empty | .text _ | .oneOf _ _ | .look _ => 1
  | .loop _ _ _ body | .capture body => 1 + weight body
  | .cat parts | .alt parts => 1 + weightAll parts

/-- How many expressions some expressions are made of. -/
def weightAll : List Shape → Nat
  | [] => 0
  | part :: parts => weight part + weightAll parts

end

/-! ### Sequences -/

/-- Puts a part that is neither empty nor a sequence in front of others. -/
def joinPart : Shape → List Shape → List Shape
  | .text a, .text b :: parts => .text (a ++ b) :: parts
  | part, parts => part :: parts

/-- Puts any part in front of others. -/
def joinFront : Shape → List Shape → List Shape
  | .empty, parts => parts
  | .cat inner, parts => inner.foldr joinPart parts
  | part, parts => joinPart part parts

/-- **Sequence of some parts.** -/
def sequence (parts : List Shape) : Shape :=
  match parts.foldr joinFront [] with
  | [] => .empty
  | [part] => part
  | parts => .cat parts

/-! ### Choices -/

/-- **One character of a set.** -/
def ofSet (asBytes : Bool) (set : CharSet) : Shape :=
  match set.scalars.ranges with
  | [] => .oneOf true .empty
  | [⟨lo, hi⟩] => if lo = hi then .text [Char.ofNat lo] else .oneOf asBytes ⟨[⟨lo, hi⟩]⟩
  | ranges => .oneOf asBytes ⟨ranges⟩

/-- The branches of a choice. -/
def branches : Shape → List Shape
  | .alt inner => inner
  | shape => [shape]

/-- The character that is all of an expression, as a set. -/
def single? : Shape → Option CharSet
  | .text [c] => some (.singleton c)
  | _ => none

/-- The set that is all of an expression. -/
def set? : Shape → Option CharSet
  | .oneOf _ set => some set
  | _ => none

/-- The parts of a sequence. -/
def parts? : Shape → Option (List Shape)
  | .cat parts => some parts
  | _ => none

/-- The parts that all of some sequences begin with. -/
def sharedFront : List (List Shape) → List Shape
  | [] => []
  | row :: rows => rows.foldl commonFront row

/-- **Choice between some branches.** Sharing what the branches begin with leaves a choice between
lighter ones, so the weight of the branches bounds how often that is done. -/
def choiceWithin : Nat → List Shape → Shape
  | bound, shapes =>
    match shapes.flatMap branches with
    | [shape] => shape
    | shapes =>
      match shapes.mapM single? <|> shapes.mapM set? with
      | some sets => ofSet false (.unions sets)
      | none =>
        match bound, shapes.mapM parts? with
        | bound + 1, some rows =>
          match sharedFront rows with
          | [] => .alt shapes
          | front =>
            let rest := rows.map fun row => sequence (row.drop front.length)
            sequence (front ++ [choiceWithin bound rest])
        | _, _ => .alt shapes

/-- **Choice between some branches.** -/
def choice (shapes : List Shape) : Shape := choiceWithin (weightAll shapes) shapes

/-! ### Simplification -/

/-- The parts of a sequence that is the only branch of a choice, or the choice as the only part. -/
def rowParts : List (List Shape) → List Shape
  | [row] => row
  | rows => [choice (rows.map sequence)]

/-- **Branches of an expression**, each as the parts of a sequence. -/
def rows : Regex → List (List Shape)
  | .empty => [[.empty]]
  | .chars asBytes set => [[ofSet asBytes set]]
  | .look condition => [[.look condition]]
  | .group captures body =>
    let shape := choice ((rows body).map sequence)
    [[if captures then .capture shape else shape]]
  | .cat first second => [rowParts (rows first) ++ rowParts (rows second)]
  | .alt first second => rows first ++ rows second
  | .loop lo hi greedy body => [[.loop lo hi greedy (choice ((rows body).map sequence))]]

/-- **Simplified form of an expression.** -/
def ofRegex (regex : Regex) : Shape := choice ((rows regex).map sequence)

/-! ### Lengths and anchors -/

mutual

/-- **Whether an expression matches nothing but the empty text.** -/
def isZeroWidth : Shape → Bool
  | .empty | .look _ => true
  | .text _ | .oneOf _ _ => false
  | .loop _ _ _ body | .capture body => isZeroWidth body
  | .cat parts | .alt parts => allZeroWidth parts

/-- Whether none of some expressions matches more than the empty text. -/
def allZeroWidth : List Shape → Bool
  | [] => true
  | part :: parts => isZeroWidth part && allZeroWidth parts

end

mutual

/-- **A lower bound on the length of every match**, or none for an expression with a part that
matches nothing at all. -/
def minLength? : Shape → Option Nat
  | .empty | .look _ => some 0
  | .text chars => some chars.length
  | .oneOf _ set => if set.isEmpty then none else some 1
  | .loop lo _ _ body => (minLength? body).map (lo * ·)
  | .capture body => minLength? body
  | .cat parts => totalLength? parts
  | .alt parts => leastLength? parts

/-- The sum of the bounds of some expressions. -/
def totalLength? : List Shape → Option Nat
  | [] => some 0
  | part :: parts => do return (← minLength? part) + (← totalLength? parts)

/-- The least of the bounds of some expressions. -/
def leastLength? : List Shape → Option Nat
  | [] => none
  | [part] => minLength? part
  | part :: parts => do return min (← minLength? part) (← leastLength? parts)

end

/-- Whether every match takes up a character. -/
def consumes (shape : Shape) : Bool := (minLength? shape).any (0 < ·)

mutual

/-- **Whether every match begins at the start of the text** as far as the front of the expression
says so. -/
def startsAtText : Shape → Bool
  | .look condition => condition = .textStart
  | .loop lo _ _ body => lo ≠ 0 && startsAtText body
  | .capture body => startsAtText body
  | .cat parts => frontStarts parts
  | .alt parts => allStart parts
  | _ => false

/-- Whether the parts up to the first one that takes up characters include one that begins at the
start of the text. -/
def frontStarts : List Shape → Bool
  | [] => false
  | part :: parts => startsAtText part || (isZeroWidth part && frontStarts parts)

/-- Whether all of some branches begin at the start of the text. -/
def allStart : List Shape → Bool
  | [] => true
  | part :: parts => startsAtText part && allStart parts

end

mutual

/-- **Whether every match ends at the end of the text** as far as the back of the expression says
so. -/
def endsAtText : Shape → Bool
  | .look condition => condition = .textEnd
  | .loop lo _ _ body => lo ≠ 0 && endsAtText body
  | .capture body => endsAtText body
  | .cat parts => backEnds parts
  | .alt parts => allEnd parts
  | _ => false

/-- Whether the parts from the last one that takes up characters on include one that ends at the end
of the text. -/
def backEnds : List Shape → Bool
  | [] => false
  | part :: parts => backEnds parts || (allZeroWidth parts && endsAtText part)

/-- Whether all of some branches end at the end of the text. -/
def allEnd : List Shape → Bool
  | [] => true
  | part :: parts => endsAtText part && allEnd parts

end

end Shape

end OrderedChoice.Pattern
