import OrderedChoice.Grammar.Rules
import OrderedChoice.Pattern.Engine

/-!
# Symbol tables

A grammar resolves every symbol name once, when it is built. The symbols are numbered: first the
nonterminals in their order, then every other name in the order in which the rules mention it. A
nonterminal refers to the symbols of its expansions by number, and every other symbol is compiled
as a pattern.

* `Table.ofRules` builds the table, or names the first symbol that is no pattern.
-/

namespace OrderedChoice

variable [PatternEngine]

/-- **What a symbol stands for.** -/
inductive Meaning where
  /-- A terminal: the text that a pattern matches. -/
  | terminal (pattern : Pattern)
  /-- A nonterminal: its expansions, with symbols by number. -/
  | nonterminal (expansions : List (List Nat))

/-- **Symbol** of a table. -/
structure Symbol where
  /-- Its name. -/
  name : String
  /-- What it stands for. -/
  meaning : Meaning

/-- **Symbol table.** -/
structure Table where
  /-- The symbols; a symbol's number is its place. -/
  symbols : Array Symbol

namespace Table

/-- The names of a list that are not among `seen`, each at its first place. -/
def distinct (seen : List String) : List String → List String
  | [] => []
  | name :: rest =>
    if seen.contains name then distinct seen rest else name :: distinct (name :: seen) rest

/-- **Names of all symbols** of the rules, in the order of their numbers. -/
def names (rules : Rules) : List String := distinct [] (rules.nonterminals ++ rules.occurrences)

/-- The expansions of a nonterminal with symbols by number. -/
def number (names : List String) (expansions : List Expansion) : List (List Nat) :=
  expansions.map fun expansion => expansion.symbols.map names.idxOf

/-- **Symbol of a name**: a nonterminal if it has rules, and otherwise a pattern. -/
def resolve (rules : Rules) (names : List String) (name : String) : Except Error Symbol :=
  match rules.get? name with
  | some expansions => .ok ⟨name, .nonterminal (number names expansions)⟩
  | none =>
    match Pattern.ofText? name.toList with
    | some pattern => .ok ⟨name, .terminal pattern⟩
    | none => .error (.invalidPattern name)

/-- The symbols of some names, or the error of the first one that is no symbol. -/
def resolveAll (rules : Rules) (names : List String) : List String → Except Error (List Symbol)
  | [] => .ok []
  | name :: rest =>
    match resolve rules names name with
    | .error e => .error e
    | .ok symbol =>
      match resolveAll rules names rest with
      | .error e => .error e
      | .ok symbols => .ok (symbol :: symbols)

/-- **Table of rules**, unless some symbol is neither a nonterminal nor a pattern. -/
def ofRules (rules : Rules) : Except Error Table :=
  match resolveAll rules (names rules) (names rules) with
  | .error e => .error e
  | .ok symbols => .ok ⟨symbols.toArray⟩

/-- The number of a symbol name. -/
def idOf? (table : Table) (name : String) : Option Nat :=
  table.symbols.findIdx? (·.name = name)

/-- The symbol of a number. -/
def get? (table : Table) (id : Nat) : Option Symbol := table.symbols[id]?

/-- The number of symbols. -/
def size (table : Table) : Nat := table.symbols.size

end Table

end OrderedChoice
