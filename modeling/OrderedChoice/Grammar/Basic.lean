import OrderedChoice.Grammar.Comment
import OrderedChoice.Grammar.Table

/-!
# Grammars

A grammar has rules, comments and perhaps a start symbol, together with the symbol table of its
rules. That the table is the one of the rules and that the start symbol has rules is part of the
type, so every grammar is one that `Grammar.build` gives.
-/

namespace OrderedChoice

variable [PatternEngine]

/-- **Grammar.** -/
structure Grammar where
  /-- The rules. -/
  rules : Rules
  /-- The symbol that a source text is parsed as if no other is asked for. -/
  start : Option String
  /-- The comments, in the order in which they are tried. -/
  comments : List Comment
  /-- The symbol table of the rules. -/
  table : Table
  /-- The start symbol has rules. -/
  start_mem : ∀ symbol, start = some symbol → rules.contains symbol = true
  /-- The table belongs to the rules. -/
  table_eq : Table.ofRules rules = .ok table

namespace Grammar

/-- **Builds a grammar.** An unknown start symbol is reported before an invalid pattern. -/
def build (rules : Rules) (start : Option String) (comments : List Comment) :
    Except Error Grammar :=
  match hstart : start.filter (!rules.contains ·) with
  | some symbol => .error (.unknownStart symbol)
  | none =>
    match htable : Table.ofRules rules with
    | .error e => .error e
    | .ok table => .ok {
        rules, start, comments, table
        start_mem := fun symbol h => by
          subst h
          simpa [Option.filter] using hstart
        table_eq := htable }

/-- The nonterminals in the order of their code points. -/
def nonterminals (grammar : Grammar) : List String := grammar.rules.nonterminals

/-- Whether a name is a nonterminal. -/
def isNonterminal (grammar : Grammar) (name : String) : Bool := grammar.rules.contains name

/-- **Expansions of a nonterminal** in the order in which they are tried. -/
def expansions (grammar : Grammar) (nonterminal : String) : Except Error (List Expansion) :=
  match grammar.rules.get? nonterminal with
  | some expansions => .ok expansions
  | none => .error (.noSuchNonterminal nonterminal)

end Grammar

end OrderedChoice
