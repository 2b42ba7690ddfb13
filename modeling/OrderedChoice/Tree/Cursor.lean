import OrderedChoice.Tree.Basic

/-!
# Cursors

A cursor stands on a node of a tree and remembers the nodes above it, so that it can move down to
a child and up again.
-/

namespace OrderedChoice

/-- **Cursor** on a node of a tree. -/
structure Cursor where
  /-- The node that the cursor stands on. -/
  focus : Tree
  /-- The nodes above it, the nearest one first. -/
  above : List Tree

namespace Cursor

/-- The cursor on the root of a tree. -/
def ofTree (tree : Tree) : Cursor := ⟨tree, []⟩

/-- The cursor on the root of its tree. -/
def root (cursor : Cursor) : Cursor := ofTree (cursor.above.getLastD cursor.focus)

/-- The cursor one node up; it stays on the root. -/
def up (cursor : Cursor) : Cursor :=
  match cursor.above with
  | [] => cursor
  | parent :: above => ⟨parent, above⟩

/-- The cursor on a node below the one it stands on. -/
def down (cursor : Cursor) (child : Tree) : Cursor := ⟨child, cursor.focus :: cursor.above⟩

/-- **The cursor on the first child with a name**; it is an error if there is none. -/
def child (cursor : Cursor) (symbol : String) : Except Error Cursor := do
  return cursor.down (← cursor.focus.child symbol)

/-- The cursor on the child at a place, if there is one. -/
def nth? (cursor : Cursor) (index : Nat) : Option Cursor :=
  cursor.focus.children[index]?.map cursor.down

end Cursor

end OrderedChoice
