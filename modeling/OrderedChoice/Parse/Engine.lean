import OrderedChoice.Grammar.Basic
import OrderedChoice.Tree.Basic
import OrderedChoice.Parse.Skip

/-!
# Matching symbols

A terminal is matched by its pattern. A nonterminal tries its expansions in order, and the first
one whose symbols all match wins; what has matched is not tried in another way. If none matches,
the expansion that came furthest is reported, the earliest one of those that came equally far,
together with the children it had so far.

Matching may go round without end, so `matchSymbol` takes a bound on the nesting of symbols and
gives no result if the bound is too small.
-/

namespace OrderedChoice

/-- **Attempt** to match the symbols of an expansion. -/
structure Attempt where
  /-- The children, one for each symbol that was tried. -/
  children : List Tree
  /-- How far the attempt came. -/
  place : Place
  /-- Why the last child did not match, if it did not. -/
  fault : Option Fault

/-- The better one of two attempts: the one that came further, or else the earlier one. -/
def Attempt.further (best : Option Attempt) (attempt : Attempt) : Attempt :=
  match best with
  | none => attempt
  | some best => if best.place.offset < attempt.place.offset then attempt else best

section

variable {σ : Type} (step : σ → Place → Option (Tree × Place))

/-- **Matches symbols from left to right** up to the first one that does not match, when `step`
matches a single symbol. -/
def matchSequence : List σ → Place → Option Attempt
  | [], place => some ⟨[], place, none⟩
  | symbol :: symbols, place =>
    match step symbol place with
    | none => none
    | some (child, next) =>
      match child.fault with
      | some fault => some ⟨[child], next, some fault⟩
      | none =>
        match matchSequence symbols next with
        | none => none
        | some attempt => some { attempt with children := child :: attempt.children }

/-- **Tries expansions in order**, after those of which `best` came furthest. The result is the
first attempt without a fault, or else the one that came furthest, if there was any. -/
def matchChoice (place : Place) : Option Attempt → List (List σ) → Option (Option Attempt)
  | best, [] => some best
  | best, expansion :: expansions =>
    match matchSequence step expansion place with
    | none => none
    | some attempt =>
      if attempt.fault.isNone then some (some attempt)
      else matchChoice place (some (attempt.further best)) expansions

end

/-- The node of a nonterminal from the attempt that is reported for it. -/
def nodeOf (name : String) (place : Place) : Option Attempt → Tree × Place
  | some attempt =>
    (⟨name, place.offset, attempt.place.offset, attempt.children, attempt.fault⟩, attempt.place)
  | none => (.failed name place.offset .noMatch, place)

variable [PatternEngine]

/-- The node of a terminal: the text that its pattern matches. -/
def matchTerminal (name : String) (pattern : Pattern) (place : Place) : Tree × Place :=
  match pattern.matchLength? place.rest with
  | some n =>
    let next := place.advance n
    (⟨name, place.offset, next.offset, [], none⟩, next)
  | none => (.failed name place.offset .noMatch, place)

/-- **Matches a symbol at a place**, with symbols nested in each other to less than a bound. The
result is the node of the symbol and the place where it ends. -/
def matchSymbol (table : Table) (comments : List Comment) :
    Nat → Nat → Place → Option (Tree × Place)
  | 0, _, _ => none
  | bound + 1, id, place =>
    match table.get? id with
    | none => none
    | some symbol =>
      match skip comments place with
      | .error opening =>
        some (.failed symbol.name opening.offset .unterminatedComment, opening)
      | .ok place =>
        match symbol.meaning with
        | .terminal pattern => some (matchTerminal symbol.name pattern place)
        | .nonterminal expansions =>
          (matchChoice (matchSymbol table comments bound) place none expansions).map
            (nodeOf symbol.name place)

end OrderedChoice
