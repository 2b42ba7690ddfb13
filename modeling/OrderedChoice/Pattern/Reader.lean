import OrderedChoice.Pattern.Reader.Class
import OrderedChoice.Pattern.Reader.Group

/-!
# Reading a pattern

A pattern is a choice between sequences of items. An item is a group, a class, an anchor or a
character, and a quantifier applies to the item right before it. `Ast.ofText?` reads a whole
pattern and refuses what is no pattern, as well as patterns that are nested too deeply.
-/

namespace OrderedChoice.Pattern

namespace Reader

/-- A quantified item. Flags take up no place in the text and cannot be repeated. -/
def quantify (lo : Nat) (hi : Option Nat) (marked : Bool) : List Ast → Reader (List Ast)
  | [] | .empty :: _ | .settings _ :: _ => refuse
  | item :: items => return .quantified lo hi marked item :: items

/-- Whether a quantifier has a question mark, which is moved over. -/
def lazyMark : Reader Bool := do
  if (← peek?) = some '?' then
    advance
    return true
  else
    return false

/-- **Quantifier of one character**, applied to the last of the items, which come last first. -/
def simpleQuantifier (lo : Nat) (hi : Option Nat) (items : List Ast) : Reader (List Ast) := do
  advance
  quantify lo hi (← lazyMark) items

/-- **Quantifier with a count**, applied to the last of the items, which come last first. -/
def countedQuantifier (items : List Ast) : Reader (List Ast) := do
  advanceSkip
  let lo ← decimal
  let hi ←
    if (← peek) = ',' then
      advanceSkip
      if (← peek) = '}' then
        pure none
      else
        some <$> decimal
    else
      pure (some lo)
  require ((← peek) = '}')
  advanceSkip
  require (hi.all (lo ≤ ·))
  quantify lo hi (← lazyMark) items

/-- An item that is neither a group nor a class in brackets. -/
def primitive (c : Char) : Reader Ast :=
  match c with
  | '\\' => escape
  | '.' => do advance; return .dot
  | '^' => do advance; return .anchor .lineStart
  | '$' => do advance; return .anchor .lineEnd
  | _ => do advance; return plain c

/-- The choice between branches and a last sequence of items, all of which come last first. -/
def assemble (branches items : List Ast) : Ast :=
  .choice ((Ast.sequence items.reverse :: branches).reverse)

/-- **Choice** up to the end of its group or of the pattern. The branches and the items of the
current branch come last first. Every round reads a character at least, so the number of
characters left bounds the rounds. -/
def choice : Nat → List Ast → List Ast → Reader Ast
  | 0, _, _ => refuse
  | bound + 1, branches, items => do
    skipBlanks
    match ← peek? with
    | none | some ')' => return assemble branches items
    | some '|' =>
      advance
      choice bound (Ast.sequence items.reverse :: branches) []
    | some '(' =>
      match ← opening with
      | .settings flags =>
        modify fun s => { s with verbose := (verboseIn flags).getD s.verbose }
        choice bound branches (.settings flags :: items)
      | .group captures flags =>
        let outer := (← get).verbose
        modify fun s => { s with verbose := (verboseIn flags).getD outer }
        let body ← choice bound [] []
        require ((← peek) = ')')
        modify fun s => { s with verbose := outer }
        advance
        choice bound branches (.group captures flags body :: items)
    | some '[' =>
      let item ← bracketed
      choice bound branches (item :: items)
    | some '?' => choice bound branches (← simpleQuantifier 0 (some 1) items)
    | some '*' => choice bound branches (← simpleQuantifier 0 none items)
    | some '+' => choice bound branches (← simpleQuantifier 1 none items)
    | some '{' => choice bound branches (← countedQuantifier items)
    | some c =>
      let item ← primitive c
      choice bound branches (item :: items)

end Reader

/-- **Pattern tree of a text**, if the text is a pattern that is not nested too deeply. -/
def Ast.ofText? (text : List Char) : Option Ast :=
  match Reader.choice (text.length + 1) [] [] ⟨text, false, []⟩ with
  | some (tree, ⟨[], _, _⟩) => if tree.depth .none ≤ maxDepth then some tree else none
  | _ => none

end OrderedChoice.Pattern
