import OrderedChoice.Text.Numeral
import OrderedChoice.Tree.Basic

/-!
# Diagnostics

A diagnostic explains a failed parse: where the text could not be read any further, what was
expected there, and what may help.
-/

namespace OrderedChoice

/-- **Mark in the source text** with a remark. -/
structure Label where
  /-- Where the mark begins. -/
  offset : Nat
  /-- How many bytes it covers. -/
  length : Nat
  /-- The remark. -/
  text : String
  deriving DecidableEq

/-- **Explanation of a failed parse.** -/
structure Diagnostic where
  /-- The fault of the node that failed. -/
  fault : Fault
  /-- The name of the node that failed. -/
  symbol : String
  /-- The line of the failure, from one. -/
  line : Nat
  /-- The mark at the failure. -/
  label : Label
  /-- What may help. -/
  help : Option String
  deriving DecidableEq

namespace Diagnostic

/-- The message of a diagnostic. -/
def message (diagnostic : Diagnostic) : String :=
  "Parse error: " ++ diagnostic.fault.text ++ " (line " ++
    Text.decimal diagnostic.line ++ ")"

/-- The code of every diagnostic. -/
def code : String := "sentential::parse"

/-- The byte offset of the failure. -/
def offset (diagnostic : Diagnostic) : Nat := diagnostic.label.offset

/-- A name between backquotes. -/
def backquoted (name : String) : String := "`" ++ name ++ "`"

/-- What is said at the failure of a node, and what may help, when `enclosing` is the node above
it. -/
def remarks (symbol enclosing : String) : Fault → String × String
  | .noMatch =>
    ("expected " ++ backquoted symbol,
      "no alternative of " ++ backquoted enclosing ++ " matches here")
  | .unterminatedComment =>
    ("comment opened here", "close the block comment before the end of input")
  | .unparsableAfter top =>
    ("unexpected input", backquoted top ++ " ends before this point")

/-- **Diagnostic of a tree**, if it has a fault. The node above the failure is the nonterminal
whose expansions ran out; if the root itself failed, it is the root. -/
def ofTree? (source : String) (tree : Tree) : Option Diagnostic :=
  match tree.failurePath.reverse with
  | [] => none
  | failure :: above =>
    failure.fault.map fun fault =>
      let enclosing := (above.head?.getD failure).symbol
      let (text, help) := remarks failure.symbol enclosing fault
      { fault
        symbol := failure.symbol
        line := failure.startLine source + 1
        label := ⟨failure.start, failure.stop - failure.start, text⟩
        help := some help }

end Diagnostic

end OrderedChoice
