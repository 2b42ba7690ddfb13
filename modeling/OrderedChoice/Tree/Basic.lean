import OrderedChoice.Error
import OrderedChoice.Text.Utf8

/-!
# Parse trees

A node of a parse tree has the name of a symbol, the part of the source text that it covers, its
children, and a fault if it did not match. A tree that records a failure is a tree like any other:
it shows how far the text could be read.

* `Tree.leaves` are the nodes without children, from left to right.
* `Tree.failure?` is the innermost node with a fault, and `Tree.failurePath` leads to it.
-/

namespace OrderedChoice

/-- **Why a node did not match.** -/
inductive Fault where
  /-- A pattern does not match, or there is no expansion to try. -/
  | noMatch
  /-- A block comment is opened and not closed. -/
  | unterminatedComment
  /-- The symbol matched, but there is text left behind it. -/
  | unparsableAfter (symbol : String)
  deriving DecidableEq

/-- **Text of a fault.** -/
def Fault.text : Fault → String
  | .noMatch => "No match"
  | .unterminatedComment => "Unterminated comment"
  | .unparsableAfter symbol => "Unparsable code after symbol [" ++ symbol ++ "]"

theorem Fault.text_noMatch : noMatch.text = "No match" := rfl

theorem Fault.text_unterminatedComment : unterminatedComment.text = "Unterminated comment" := rfl

theorem Fault.toList_text_unparsableAfter (symbol : String) :
    (unparsableAfter symbol).text.toList =
      "Unparsable code after symbol [".toList ++ symbol.toList ++ "]".toList := by
  unfold text
  dsimp only
  rw [String.toList_append, String.toList_append]

/-- **Parse tree.** Places are byte offsets into the source text. -/
structure Tree where
  /-- The name of the symbol; it is empty for text that is left over. -/
  symbol : String
  /-- Where the node begins. -/
  start : Nat
  /-- Where the node ends. -/
  stop : Nat
  /-- The children from left to right. -/
  children : List Tree
  /-- Why the node did not match, if it did not. -/
  fault : Option Fault

namespace Tree

/-- A node of no width that did not match. -/
def failed (symbol : String) (place : Nat) (fault : Fault) : Tree :=
  ⟨symbol, place, place, [], some fault⟩

/-- Whether a node has no children. -/
def isLeaf (tree : Tree) : Bool := tree.children.isEmpty

/-- **Text that a node covers.** -/
def content (source : String) (tree : Tree) : String :=
  String.ofList (Text.slice tree.start tree.stop source.toList)

/-- **Line in which a node begins**, from zero. -/
def startLine (source : String) (tree : Tree) : Nat :=
  Text.lineOf tree.start source.toList

/-- The first child with a name. -/
def findChild? (tree : Tree) (symbol : String) : Option Tree :=
  tree.children.find? (·.symbol = symbol)

/-- **Child with a name**; it is an error if there is none. -/
def child (tree : Tree) (symbol : String) : Except Error Tree :=
  match tree.findChild? symbol with
  | some child => .ok child
  | none => .error (.missingChild tree.symbol symbol)

/-! ### Walks -/

mutual

/-- **Nodes in pre-order**, each with its depth below the root, from `depth` on. -/
def preorder (depth : Nat) : Tree → List (Nat × Tree)
  | ⟨symbol, start, stop, children, fault⟩ =>
    (depth, ⟨symbol, start, stop, children, fault⟩) :: preorderAll (depth + 1) children

/-- The nodes of some trees in pre-order. -/
def preorderAll (depth : Nat) : List Tree → List (Nat × Tree)
  | [] => []
  | tree :: trees => preorder depth tree ++ preorderAll depth trees

end

mutual

/-- **Leaves** from left to right. -/
def leaves : Tree → List Tree
  | ⟨symbol, start, stop, children, fault⟩ =>
    if children.isEmpty then [⟨symbol, start, stop, children, fault⟩] else leavesAll children

/-- The leaves of some trees. -/
def leavesAll : List Tree → List Tree
  | [] => []
  | tree :: trees => leaves tree ++ leavesAll trees

end

mutual

/-- **Whether a node or one below it has a fault.** -/
def hasFault : Tree → Bool
  | ⟨_, _, _, children, fault⟩ => fault.isSome || anyFault children

/-- Whether one of some trees has a fault. -/
def anyFault : List Tree → Bool
  | [] => false
  | tree :: trees => hasFault tree || anyFault trees

end

mutual

/-- **Innermost node with a fault**, on the left if there are several. -/
def failure? : Tree → Option Tree
  | ⟨symbol, start, stop, children, fault⟩ =>
    match failureIn? children with
    | some tree => some tree
    | none => if fault.isSome then some ⟨symbol, start, stop, children, fault⟩ else none

/-- The innermost node with a fault in the first of some trees that has one. -/
def failureIn? : List Tree → Option Tree
  | [] => none
  | tree :: trees =>
    match failure? tree with
    | some tree => some tree
    | none => failureIn? trees

end

mutual

/-- The way down from a node, always to the first child with a fault in or below it. -/
def descent : Tree → List Tree
  | ⟨symbol, start, stop, children, fault⟩ =>
    ⟨symbol, start, stop, children, fault⟩ :: descentAll children

/-- The way down from the first of some trees with a fault in or below it. -/
def descentAll : List Tree → List Tree
  | [] => []
  | tree :: trees => if hasFault tree then descent tree else descentAll trees

end

/-- **Nodes from the root down to the failure**; there are none if the tree has no fault. -/
def failurePath (tree : Tree) : List Tree :=
  let path := tree.descent
  if path.getLast?.any (·.fault.isSome) then path else []

end Tree

end OrderedChoice
