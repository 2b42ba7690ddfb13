import OrderedChoice.Json.Escape
import OrderedChoice.Text.Numeral
import OrderedChoice.Text.Quoted
import OrderedChoice.Text.Styled
import OrderedChoice.Tree.Basic

/-!
# Written forms of trees

A tree is written as text, with one line for each node that is indented by its depth, or as JSON,
with an object for each node.
-/

namespace OrderedChoice.Tree

/-- Blanks. -/
def spaces (n : Nat) : String := String.ofList (List.replicate n ' ')

/-! ### Text -/

/-- The name of a node; text that is left over has a name in angle brackets. -/
def label (tree : Tree) : String := if tree.symbol = "" then "<input>" else tree.symbol

/-- What is written behind the place of a node: its fault, or the text of a leaf. -/
def remark (source : String) (colored : Bool) (tree : Tree) : String :=
  match tree.fault with
  | some fault => Text.styled colored .red false (" " ++ fault.text)
  | none =>
    if tree.isLeaf then " " ++ String.ofList (Text.quoted (tree.content source).toList) else ""

/-- **Line of a node.** -/
def line (source : String) (colored : Bool) (depth : Nat) (tree : Tree) : String :=
  spaces (2 * depth) ++ Text.styled colored .cyan tree.isLeaf tree.label ++
    " [" ++ Text.decimal tree.start ++ ".." ++ Text.decimal tree.stop ++ "]" ++
    tree.remark source colored ++ "\n"

/-- **Text form of a tree**: a line for each node in pre-order. -/
def toText (source : String) (colored : Bool) (tree : Tree) : String :=
  String.join ((tree.preorder 0).map fun (depth, node) => node.line source colored depth)

/-! ### JSON -/

/-- A member of an object on a line of its own, without the comma behind it. -/
def member (depth : Nat) (name value : String) : String :=
  "\n" ++ spaces (2 * depth) ++ "\"" ++ name ++ "\": " ++ value

/-- A written string. -/
def jsonString (text : String) : String := String.ofList (Json.quote text.toList)

/-- The member for a fault, if there is one. -/
def faultMember (depth : Nat) : Option Fault → String
  | none => ""
  | some fault => member depth "error" (jsonString fault.text) ++ ","

mutual

/-- **JSON form of a node** whose members are indented by `depth` levels. -/
def toJsonAt (source : String) (depth : Nat) : Tree → String
  | ⟨symbol, start, stop, children, fault⟩ =>
    let content := String.ofList (Text.slice start stop source.toList)
    "\x7b" ++ member depth "symbol" (jsonString symbol) ++ "," ++
      member depth "start" (Text.decimal start) ++ "," ++
      member depth "end" (Text.decimal stop) ++ "," ++
      member depth "content" (jsonString content) ++ "," ++
      faultMember depth fault ++
      member depth "children" ("[" ++ toJsonList source (depth + 1) children) ++
      "\n" ++ spaces (2 * (depth - 1)) ++ "\x7d"

/-- The JSON forms of the items of a list up to its closing bracket. -/
def toJsonList (source : String) (depth : Nat) : List Tree → String
  | [] => "]"
  | tree :: trees =>
    "\n" ++ spaces (2 * depth) ++ toJsonAt source (depth + 1) tree ++
      toJsonRest source depth trees

/-- The JSON forms of further items of a list up to its closing bracket. -/
def toJsonRest (source : String) (depth : Nat) : List Tree → String
  | [] => "\n" ++ spaces (2 * (depth - 1)) ++ "]"
  | tree :: trees =>
    ",\n" ++ spaces (2 * depth) ++ toJsonAt source (depth + 1) tree ++
      toJsonRest source depth trees

end

/-- **JSON form of a tree**, with a line feed at its end. -/
def toJson (source : String) (tree : Tree) : String := tree.toJsonAt source 1 ++ "\n"

end OrderedChoice.Tree
