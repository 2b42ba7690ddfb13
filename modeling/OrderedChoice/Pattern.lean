import OrderedChoice.Pattern.Engine
import OrderedChoice.Pattern.Reader
import OrderedChoice.Pattern.Resolve
import OrderedChoice.Pattern.Size
import OrderedChoice.Pattern.Match

/-!
# The pattern engine

The engine that patterns are run with: a text is read, its flags are applied, and what it means is
turned into a program, unless that is too large.
-/

namespace OrderedChoice.Pattern

/-- **Compiles a regular expression**, if the text is one and its program is not too large. -/
def Program.ofExpression? (text : List Char) : Option Program := do
  let tree ← Ast.ofText? text
  let (regex, _) ← tree.resolve .initial
  if (Shape.ofRegex regex).fits then some (.ofRegex regex) else none

/-- **The engine of programs.** -/
instance engine : PatternEngine where
  Compiled := Program
  compile? := Program.ofExpression?
  matchLength? := Program.matchLength?

-- The mark `!=` asks for the characters with any other value.
example : (ofText? "\\p\x7bgc!=ASCII\x7d".toList).bind (·.matchLength? ['é']) = some 1 := by
  decide +kernel

example : (ofText? "\\p\x7bgc!=ASCII\x7d".toList).bind (·.matchLength? ['a']) = none := by
  decide +kernel

end OrderedChoice.Pattern
