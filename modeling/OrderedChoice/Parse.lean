import OrderedChoice.Parse.Engine

/-!
# Parsing

`Grammar.parse` matches a nonterminal at the beginning of a source text and expects nothing but
white space and comments behind it. What is left over becomes a last child of the root, which has
no name.

A grammar can send the parse round in circles. Symbols in each other's expansions can be nested
without end only if one of them comes back at the same place, and there are no more pairs of a
nonterminal and a place than `parseBound` says; so a parse that has not ended within that bound
never ends.
-/

namespace OrderedChoice

/-- **Why a parse gives no tree.** -/
inductive ParseError where
  /-- The symbol is no nonterminal. -/
  | unknownSymbol (symbol : String)
  /-- The parse does not end. -/
  | endless
  deriving DecidableEq

/-- The message of a parse that gives no tree. -/
def ParseError.message : ParseError → String
  | .unknownSymbol symbol => "cannot parse against unknown symbol '" ++ symbol ++ "'"
  | .endless => "the grammar recurses without end"

namespace Grammar

variable [PatternEngine]

/-- **Matches a symbol of the grammar**, by number, at a place. -/
def matchAt (grammar : Grammar) (bound id : Nat) (place : Place) : Option (Tree × Place) :=
  matchSymbol grammar.table grammar.comments bound id place

/-- **Depth to which symbols can be nested** without coming back to where they were: every pair of
a nonterminal and a place, and a terminal below them. -/
def parseBound (grammar : Grammar) (text : List Char) : Nat :=
  grammar.rules.size * (text.length + 1) + 1

/-- **Finishes a tree** whose root has matched up to a place: the root is extended over what may be
skipped, and text that is left over is reported as a last child. -/
def finish (grammar : Grammar) (symbol : String) (root : Tree) (place : Place) : Tree :=
  match skip grammar.comments place with
  | .ok next =>
    if next.rest.isEmpty then { root with stop := next.offset }
    else leave next (.unparsableAfter symbol)
  | .error opening => leave opening .unterminatedComment
where
  /-- The tree that reports a fault at a place behind the root. -/
  leave (place : Place) (fault : Fault) : Tree :=
    { root with
      stop := place.offset
      children := root.children ++ [.failed "" place.offset fault] }

/-- **Parses a source text as a symbol.** -/
def parse (grammar : Grammar) (source symbol : String) : Except ParseError Tree :=
  match grammar.table.idOf? symbol with
  | none => .error (.unknownSymbol symbol)
  | some id =>
    if grammar.isNonterminal symbol then
      let text := source.toList
      match grammar.matchAt (grammar.parseBound text) id (.begin text) with
      | none => .error .endless
      | some (root, place) =>
        if root.fault.isSome then .ok root else .ok (grammar.finish symbol root place)
    else
      .error (.unknownSymbol symbol)

end Grammar

end OrderedChoice
