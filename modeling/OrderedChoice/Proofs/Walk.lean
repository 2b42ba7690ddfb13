import Mathlib.Data.List.Chain
import OrderedChoice.Tree.Basic

/-!
# Walks through a tree

The walks of `Tree` go through the children with a function of their own for lists. This module
states each walk once in terms of the children as a list, and later proofs use nothing else.

* `Tree.induction`: what holds of a tree if it holds of all its children holds of every tree.
* `Tree.nodes` are the nodes in pre-order, without their depth.
* `Tree.failure?_eq_of_children` and `Tree.failurePath_eq_of_children`: a node fails where the first
  child with a fault in or below it does.
-/

namespace OrderedChoice.Tree

/-- **Induction over trees**, by way of the children. -/
theorem induction {motive : Tree → Prop}
    (node : ∀ tree, (∀ child ∈ tree.children, motive child) → motive tree) :
    ∀ tree, motive tree
  | ⟨symbol, start, stop, children, fault⟩ => node _ fun child _hchild => induction node child
-- A child is smaller than the list that it is in, and that list is smaller than the tree.
termination_by tree => sizeOf tree
decreasing_by
  have hlt : sizeOf child < sizeOf children := List.sizeOf_lt_of_mem _hchild
  rw [Tree.mk.sizeOf_spec]
  omega

/-! ### Leaves -/

theorem leavesAll_eq (trees : List Tree) : leavesAll trees = trees.flatMap leaves := by
  induction trees with
  | nil => rfl
  | cons tree trees ih => rw [leavesAll, ih, List.flatMap_cons]

theorem leaves_of_children_nil {tree : Tree} (h : tree.children = []) : tree.leaves = [tree] := by
  cases tree
  subst h
  rfl

theorem leaves_of_children_ne_nil {tree : Tree} (h : tree.children ≠ []) :
    tree.leaves = tree.children.flatMap leaves := by
  cases tree
  rw [leaves, if_neg (by simpa using h), leavesAll_eq]

/-- A tree has a leaf. -/
theorem leaves_ne_nil (tree : Tree) : tree.leaves ≠ [] := by
  induction tree using Tree.induction with
  | node tree ih =>
    cases hchildren : tree.children with
    | nil =>
      rw [leaves_of_children_nil hchildren]
      exact List.cons_ne_nil _ _
    | cons child rest =>
      have hne : tree.children ≠ [] := by rw [hchildren]; exact List.cons_ne_nil _ _
      rw [leaves_of_children_ne_nil hne, hchildren, List.flatMap_cons]
      refine List.append_ne_nil_of_left_ne_nil (ih child ?_) _
      rw [hchildren]
      exact List.mem_cons_self

/-! ### Faults -/

theorem anyFault_eq (trees : List Tree) : anyFault trees = trees.any hasFault := by
  induction trees with
  | nil => rfl
  | cons tree trees ih => rw [anyFault, ih, List.any_cons]

theorem hasFault_eq (tree : Tree) :
    tree.hasFault = (tree.fault.isSome || tree.children.any hasFault) := by
  cases tree
  rw [hasFault, anyFault_eq]

theorem hasFault_eq_false {tree : Tree} :
    tree.hasFault = false ↔
      tree.fault = none ∧ ∀ child ∈ tree.children, child.hasFault = false := by
  rw [hasFault_eq, Bool.or_eq_false_iff, Option.isSome_eq_false_iff, Option.isNone_iff_eq_none,
    List.any_eq_false]
  simp only [Bool.not_eq_true]

theorem hasFault_of_fault {tree : Tree} (h : tree.fault ≠ none) : tree.hasFault = true := by
  rw [hasFault_eq, Option.isSome_iff_ne_none.2 h, Bool.true_or]

/-- Where a node ends has nothing to do with faults. -/
theorem hasFault_withStop (tree : Tree) (stop : Nat) :
    ({ tree with stop := stop } : Tree).hasFault = tree.hasFault := by
  rw [hasFault_eq, hasFault_eq]

/-! ### Nodes -/

/-- **Nodes in pre-order.** -/
def nodes (tree : Tree) : List Tree := (tree.preorder 0).map (·.2)

theorem preorderAll_eq (depth : Nat) (trees : List Tree) :
    preorderAll depth trees = trees.flatMap (preorder depth) := by
  induction trees with
  | nil => rfl
  | cons tree trees ih => rw [preorderAll, ih, List.flatMap_cons]

theorem preorder_eq (depth : Nat) (tree : Tree) :
    tree.preorder depth = (depth, tree) :: tree.children.flatMap (preorder (depth + 1)) := by
  cases tree
  rw [preorder, preorderAll_eq]

/-- The depth from which a walk counts does not change its nodes. -/
theorem map_snd_preorder (depth : Nat) (tree : Tree) :
    (tree.preorder depth).map (·.2) = tree.nodes := by
  induction tree using Tree.induction generalizing depth with
  | node tree ih =>
    rw [nodes, preorder_eq, preorder_eq, List.map_cons, List.map_cons, List.map_flatMap,
      List.map_flatMap]
    refine congrArg (tree :: ·) (List.flatMap_congr fun child hchild => ?_)
    rw [ih child hchild, ih child hchild]

theorem nodes_eq (tree : Tree) : tree.nodes = tree :: tree.children.flatMap nodes := by
  rw [nodes, preorder_eq, List.map_cons, List.map_flatMap]
  simp only [map_snd_preorder]

theorem mem_nodes {tree node : Tree} :
    node ∈ tree.nodes ↔ node = tree ∨ ∃ child ∈ tree.children, node ∈ child.nodes := by
  rw [nodes_eq, List.mem_cons, List.mem_flatMap]

theorem self_mem_nodes (tree : Tree) : tree ∈ tree.nodes := mem_nodes.2 (.inl rfl)

theorem fault_eq_none_of_mem_nodes {tree node : Tree} (h : tree.hasFault = false)
    (hnode : node ∈ tree.nodes) : node.fault = none := by
  induction tree using Tree.induction with
  | node tree ih =>
    obtain ⟨hfault, hchildren⟩ := hasFault_eq_false.1 h
    rcases mem_nodes.1 hnode with rfl | ⟨child, hchild, hnode⟩
    · exact hfault
    · exact ih child hchild (hchildren child hchild) hnode

/-- There is no fault exactly if no node has one. -/
theorem hasFault_eq_false_iff_nodes {tree : Tree} :
    tree.hasFault = false ↔ ∀ node ∈ tree.nodes, node.fault = none := by
  refine ⟨fun h node hnode => fault_eq_none_of_mem_nodes h hnode, fun h => ?_⟩
  induction tree using Tree.induction with
  | node tree ih =>
    refine hasFault_eq_false.2 ⟨h tree (self_mem_nodes tree), fun child hchild => ?_⟩
    exact ih child hchild fun node hnode => h node (mem_nodes.2 (.inr ⟨child, hchild, hnode⟩))

/-! ### The way to the failure -/

theorem failureIn?_eq (trees : List Tree) : failureIn? trees = trees.findSome? failure? := by
  induction trees with
  | nil => rfl
  | cons tree trees ih =>
    rw [failureIn?, List.findSome?_cons, ih]
    cases tree.failure? <;> rfl

theorem failure?_eq (tree : Tree) :
    tree.failure? = (tree.children.findSome? failure?).or
      (if tree.fault.isSome then some tree else none) := by
  cases tree with
  | mk symbol start stop children fault =>
    rw [failure?, failureIn?_eq]
    cases children.findSome? failure? <;> rfl

theorem failure?_eq_none {tree : Tree} (h : tree.hasFault = false) : tree.failure? = none := by
  induction tree using Tree.induction with
  | node tree ih =>
    obtain ⟨hfault, hchildren⟩ := hasFault_eq_false.1 h
    have hnone : tree.children.findSome? failure? = none :=
      List.findSome?_eq_none_iff.2 fun child hchild => ih child hchild (hchildren child hchild)
    rw [failure?_eq, hnone, hfault]
    rfl

theorem hasFault_of_failure? {tree node : Tree} (h : tree.failure? = some node) :
    tree.hasFault = true := by
  by_contra hfault
  rw [failure?_eq_none (Bool.not_eq_true _ ▸ hfault)] at h
  cases h

section

variable {trees : List Tree} (h : ∀ tree ∈ trees, tree.hasFault = false)

include h

theorem findSome?_failure?_eq_none : trees.findSome? failure? = none :=
  List.findSome?_eq_none_iff.2 fun tree htree => failure?_eq_none (h tree htree)

theorem find?_hasFault_eq_none : trees.find? hasFault = none :=
  List.find?_eq_none.2 fun tree htree => by simp [h tree htree]

end

theorem descentAll_eq (trees : List Tree) :
    descentAll trees = ((trees.find? hasFault).map descent).getD [] := by
  induction trees with
  | nil => rfl
  | cons tree trees ih =>
    rw [descentAll]
    split
    · next h => rw [List.find?_cons_of_pos h]; rfl
    · next h => rw [List.find?_cons_of_neg h, ih]

theorem descent_eq (tree : Tree) :
    tree.descent = tree :: ((tree.children.find? hasFault).map descent).getD [] := by
  cases tree
  rw [descent, descentAll_eq]

theorem mem_nodes_of_mem_descent {tree node : Tree} (h : node ∈ tree.descent) :
    node ∈ tree.nodes := by
  induction tree using Tree.induction with
  | node tree ih =>
    rw [descent_eq] at h
    rcases List.mem_cons.1 h with rfl | h
    · exact self_mem_nodes _
    · cases hfind : tree.children.find? hasFault with
      | none =>
        rw [hfind] at h
        cases h
      | some child =>
        rw [hfind] at h
        have hchild : child ∈ tree.children := List.mem_of_find?_eq_some hfind
        exact mem_nodes.2 (.inr ⟨child, hchild, ih child hchild h⟩)

/-- The way to the failure goes through nodes of the tree. -/
theorem mem_nodes_of_mem_failurePath {tree node : Tree} (h : node ∈ tree.failurePath) :
    node ∈ tree.nodes := by
  simp only [failurePath] at h
  split at h
  · exact mem_nodes_of_mem_descent h
  · cases h

/-- **The way down ends at a node with a fault** exactly if there is a fault at all. -/
theorem any_getLast?_descent (tree : Tree) :
    tree.descent.getLast?.any (·.fault.isSome) = tree.hasFault := by
  induction tree using Tree.induction with
  | node tree ih =>
    rw [descent_eq]
    cases hfind : tree.children.find? hasFault with
    | none =>
      -- No child has a fault in or below it, so it comes down to the node itself.
      have hany : tree.children.any hasFault = false := by
        rw [List.any_eq_false]
        exact List.find?_eq_none.1 hfind
      rw [hasFault_eq, hany, Bool.or_false, Option.map_none, Option.getD_none,
        List.getLast?_singleton, Option.any_some]
    | some child =>
      have hchild : child ∈ tree.children := List.mem_of_find?_eq_some hfind
      have hfault : child.hasFault = true := List.find?_some hfind
      have hany : tree.children.any hasFault = true := List.any_eq_true.2 ⟨child, hchild, hfault⟩
      have hne : child.descent ≠ [] := by
        rw [descent_eq]
        exact List.cons_ne_nil _ _
      obtain ⟨last, hlast⟩ := Option.ne_none_iff_exists'.1 (mt List.getLast?_eq_none_iff.1 hne)
      rw [hasFault_eq, hany, Bool.or_true, Option.map_some, Option.getD_some, List.getLast?_cons,
        ← hfault, ← ih child hchild, hlast, Option.getD_some]

/-- Where there is a fault, the way down is not thrown away. -/
theorem failurePath_of_hasFault {tree : Tree} (h : tree.hasFault = true) :
    tree.failurePath = tree.descent := by
  simp only [failurePath, any_getLast?_descent, h, if_true]

/-- The way to the failure is empty exactly if there is no fault. -/
theorem failurePath_eq_nil_iff {tree : Tree} : tree.failurePath = [] ↔ tree.hasFault = false := by
  simp only [failurePath, any_getLast?_descent]
  cases tree.hasFault with
  | false => simp only [Bool.false_eq_true, if_false]
  | true =>
    rw [if_pos rfl, descent_eq]
    exact ⟨nofun, nofun⟩

/-- The way to the failure ends at a node with a fault. -/
theorem exists_fault_of_getLast?_failurePath {tree last : Tree}
    (h : tree.failurePath.getLast? = some last) : ∃ fault, last.fault = some fault := by
  simp only [failurePath] at h
  split at h
  · next hany =>
    rw [h, Option.any_some] at hany
    exact Option.isSome_iff_exists.1 hany
  · cases h

/-! ### One step to the failure

Both the search for the failure and the way to it stay at a node with a fault if there is none below
it. Otherwise they pass over the children without a fault and go on below the first other one. -/

section

variable {tree : Tree} (hfault : tree.fault ≠ none)
  (hchildren : ∀ child ∈ tree.children, child.hasFault = false)

include hfault hchildren

theorem failure?_eq_self : tree.failure? = some tree := by
  rw [failure?_eq, findSome?_failure?_eq_none hchildren, Option.none_or,
    if_pos (Option.isSome_iff_ne_none.2 hfault)]

theorem failurePath_eq_self : tree.failurePath = [tree] := by
  rw [failurePath_of_hasFault (hasFault_of_fault hfault), descent_eq,
    find?_hasFault_eq_none hchildren, Option.map_none, Option.getD_none]

end

section

variable {tree child node : Tree} {before after : List Tree}
  (hchildren : tree.children = before ++ child :: after)
  (hbefore : ∀ sibling ∈ before, sibling.hasFault = false)

include hchildren hbefore

theorem failure?_eq_of_children (h : child.failure? = some node) : tree.failure? = some node := by
  rw [failure?_eq, hchildren, List.findSome?_append, findSome?_failure?_eq_none hbefore,
    Option.none_or, List.findSome?_cons, h]
  rfl

theorem failurePath_eq_of_children (h : child.hasFault = true) :
    tree.failurePath = tree :: child.failurePath := by
  have hfind : tree.children.find? hasFault = some child := by
    rw [hchildren, List.find?_append, find?_hasFault_eq_none hbefore, Option.none_or,
      List.find?_cons_of_pos h]
  have htree : tree.hasFault = true := by
    rw [hasFault_eq, List.any_eq_true.2 ⟨child, List.mem_of_find?_eq_some hfind, h⟩, Bool.or_true]
  rw [failurePath_of_hasFault htree, failurePath_of_hasFault h, descent_eq, hfind,
    Option.map_some, Option.getD_some]

end

end OrderedChoice.Tree
