import OrderedChoice.Grammar.Basic

/-!
# Endless rules

Two kinds of expansion make a parse go round without taking up text. A left-recursive expansion
begins with its own nonterminal. A self-producing one consists of nothing else, or is a single
nonterminal from which a chain of nonterminals, each with one expansion that is the next, leads
back to it.
-/

namespace OrderedChoice

/-- **Finding**: an expansion that is reported. -/
structure Finding where
  /-- The nonterminal. -/
  nonterminal : String
  /-- The place of the expansion among those of the nonterminal, from zero. -/
  index : Nat
  /-- The expansion. -/
  expansion : Expansion
  deriving DecidableEq

namespace Rules

/-- All expansions of all nonterminals, in the order of the rules. -/
def alternatives (rules : Rules) : List Finding :=
  rules.entries.flatMap fun (nonterminal, expansions) =>
    expansions.zipIdx.map fun (expansion, index) => ⟨nonterminal, index, expansion⟩

/-- The nonterminal that an expansion passes on to: its only symbol. -/
def passThrough? (rules : Rules) (expansion : Expansion) : Option String :=
  match expansion.symbols with
  | [symbol] => if rules.contains symbol then some symbol else none
  | _ => none

/-- The nonterminal that a nonterminal passes on to with its only expansion. -/
def next? (rules : Rules) (nonterminal : String) : Option String :=
  match rules.get? nonterminal with
  | some [expansion] => rules.passThrough? expansion
  | _ => none

/-- **Whether a chain comes to `origin`** before it ends or comes to a nonterminal for the second
time. The nonterminals that have been seen are all different, so their number bounds the steps. -/
def chainReaches (rules : Rules) (origin : String) :
    Nat → List String → Option String → Bool
  | _, _, none => false
  | 0, _, some _ => false
  | bound + 1, seen, some current =>
    if current = origin then true
    else if seen.contains current then false
    else chainReaches rules origin bound (current :: seen) (rules.next? current)

/-- Whether the chain that begins with an expansion of `origin` leads back to it. -/
def passesBack (rules : Rules) (origin : String) (expansion : Expansion) : Bool :=
  rules.chainReaches origin (rules.size + 1) [] (rules.passThrough? expansion)

end Rules

namespace Grammar

variable [PatternEngine]

/-- **Self-producing expansions** in the order of the rules. -/
def selfProducing (grammar : Grammar) : List Finding :=
  grammar.rules.alternatives.filter fun finding =>
    finding.expansion.isSelfProducing finding.nonterminal ||
      grammar.rules.passesBack finding.nonterminal finding.expansion

/-- **Left-recursive expansions** in the order of the rules. -/
def leftRecursive (grammar : Grammar) : List Finding :=
  grammar.rules.alternatives.filter fun finding =>
    finding.expansion.isLeftRecursive finding.nonterminal

/-- **Whether a grammar passes the check**: no expansion is reported. -/
def passesCheck (grammar : Grammar) : Bool :=
  grammar.selfProducing.isEmpty && grammar.leftRecursive.isEmpty

end Grammar

end OrderedChoice
