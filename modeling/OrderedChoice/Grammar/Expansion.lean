/-!
# Expansions

An expansion is one way to spell out a nonterminal: a sequence of symbol names. The empty sequence
erases the nonterminal.
-/

namespace OrderedChoice

/-- **Expansion** of a nonterminal. -/
structure Expansion where
  /-- The names of its symbols, from left to right. -/
  symbols : List String
  deriving DecidableEq

namespace Expansion

/-- The expansion that erases its nonterminal. -/
def empty : Expansion := ⟨[]⟩

/-- Whether an expansion erases its nonterminal. -/
def isEmpty (expansion : Expansion) : Bool := expansion.symbols.isEmpty

/-- The first symbol, if there is one. -/
def first? (expansion : Expansion) : Option String := expansion.symbols.head?

/-- **Written form**: the names with blanks between them, or an epsilon for no name. -/
def display (expansion : Expansion) : String :=
  if expansion.isEmpty then "ε" else " ".intercalate expansion.symbols

/-- **Self-producing**: the expansion has symbols, and all of them are the nonterminal itself. -/
def isSelfProducing (nonterminal : String) (expansion : Expansion) : Bool :=
  !expansion.isEmpty && expansion.symbols.all (· = nonterminal)

/-- **Left-recursive**: the expansion begins with the nonterminal itself. -/
def isLeftRecursive (nonterminal : String) (expansion : Expansion) : Bool :=
  expansion.first? = some nonterminal

end Expansion

end OrderedChoice
