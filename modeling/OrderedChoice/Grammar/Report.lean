import OrderedChoice.Grammar.Analysis
import OrderedChoice.Text.Numeral
import OrderedChoice.Text.Styled

/-!
# Reports on grammars

The report on a grammar counts its nonterminals, names its start symbol and lists the expansions
that make a parse endless.
-/

namespace OrderedChoice

/-- The line of a finding of some kind. -/
def Finding.line (colored : Bool) (kind : String) (finding : Finding) : String :=
  Text.styled colored .yellow true kind ++ ": " ++ finding.nonterminal ++ " -> " ++
    finding.expansion.display ++ " (alternative " ++
    Text.decimal finding.index ++ ")\n"

namespace Grammar

variable [PatternEngine]

/-- **Report on a grammar.** -/
def report (grammar : Grammar) (colored : Bool) : String :=
  let selfProducing := grammar.selfProducing
  let leftRecursive := grammar.leftRecursive
  Text.decimal grammar.nonterminals.length ++ " nonterminals, start symbol: " ++
    grammar.start.getD "(none)" ++ "\n" ++
    String.join (selfProducing.map (·.line colored "self-producing")) ++
    String.join (leftRecursive.map (·.line colored "left-recursive")) ++
    (if selfProducing.isEmpty && leftRecursive.isEmpty then
      Text.styled colored .green true "Grammar check passed\n"
    else
      "")

end Grammar

end OrderedChoice
