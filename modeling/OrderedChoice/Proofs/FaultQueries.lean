import Mathlib.Data.List.Infix
import OrderedChoice.Proofs.Walk

/-!
# The queries about faults agree

A tree can be asked whether it has a fault, which node failed, and which way leads there. The three
answers are found by different routes. The failure is searched for from below: all that is under a
node comes before the node itself. The way is made from above: it always goes to the first child
with a fault in or below it, never turns back, and is thrown away if it ends at a node without a
fault. A tree that was not made by a parser may have faults anywhere, in several branches at once
and below nodes that have none.

The routes meet because a child in or below which there is no fault adds nothing to either of them,
and the first other child decides both. So the induction over the tree follows that one child.

Equal nodes may stand at several places of a tree. What a node is told by is its address, the number
of the child to go to for each step down.

* `Tree.at?` is the node at an address, and `Tree.along` are the nodes on the way to it.
* `Tree.postorder` lists the nodes, each behind those below it, and `Tree.mem_postorder_iff` says
  that it lists what is at the addresses.
* `Tree.FailsFirstAt` is all that the queries say about the place of a failure. It holds of a node
  with a fault that has none below it (`Tree.failsFirstAt_self`), and is handed up from the first
  child with a fault (`Tree.FailsFirstAt.parent`).
* `Tree.fault_queries_agree`: so it is for every tree.
-/

namespace OrderedChoice.Tree

/-! ### Addresses -/

/-- **Node at an address**, if there is one. -/
def at? (tree : Tree) : List Nat → Option Tree
  | [] => some tree
  | index :: address => tree.children[index]?.bind fun child => child.at? address

/-- **Nodes on the way to an address**: those at the parts that it begins with. -/
def along (tree : Tree) (address : List Nat) : List Tree := address.inits.filterMap tree.at?

theorem at?_cons {tree child : Tree} {index : Nat} (h : tree.children[index]? = some child)
    (address : List Nat) : tree.at? (index :: address) = child.at? address := by
  rw [at?, h, Option.bind_some]

theorem along_nil (tree : Tree) : tree.along [] = [tree] := rfl

/-- The way to a node below a child is the way from the child, with the node above it in front. -/
theorem along_cons {tree child : Tree} {index : Nat} (h : tree.children[index]? = some child)
    (address : List Nat) : tree.along (index :: address) = tree :: child.along address := by
  have hroot : tree.at? [] = some tree := rfl
  have hbelow : tree.at? ∘ (index :: ·) = child.at? := funext (at?_cons h)
  rw [along, List.inits_cons, List.filterMap_cons_some hroot, List.filterMap_map, hbelow, along]

theorem mem_nodes_of_at? {tree node : Tree} {address : List Nat}
    (h : tree.at? address = some node) : node ∈ tree.nodes := by
  induction address generalizing tree with
  | nil => exact Option.some.inj h ▸ self_mem_nodes tree
  | cons index address ih =>
    obtain ⟨child, hchild, hnode⟩ := Option.bind_eq_some_iff.1 h
    exact mem_nodes.2 (.inr ⟨child, List.mem_of_getElem? hchild, ih hnode⟩)

/-! ### Post-order -/

/-- What is listed for a child, as it is listed for the node above it: the addresses begin with the
number of the child. -/
def lift (index : Nat) (entry : List Nat × Tree) : List Nat × Tree := (index :: entry.1, entry.2)

mutual

/-- **Nodes in post-order**, each with its address: first those below the children, from left to
right, and the root at the end. -/
def postorder : Tree → List (List Nat × Tree)
  | ⟨symbol, start, stop, children, fault⟩ =>
    postorderAll 0 children ++ [([], ⟨symbol, start, stop, children, fault⟩)]

/-- The nodes of some children in post-order, the first of which has a given number. -/
def postorderAll (index : Nat) : List Tree → List (List Nat × Tree)
  | [] => []
  | tree :: trees => (postorder tree).map (lift index) ++ postorderAll (index + 1) trees

end

theorem postorderAll_eq (index : Nat) (trees : List Tree) :
    postorderAll index trees =
      (trees.zipIdx index).flatMap fun item => item.1.postorder.map (lift item.2) := by
  induction trees generalizing index with
  | nil => rfl
  | cons tree trees ih => rw [postorderAll, ih, List.zipIdx_cons, List.flatMap_cons]

theorem postorder_eq (tree : Tree) :
    tree.postorder =
      (tree.children.zipIdx.flatMap fun item => item.1.postorder.map (lift item.2)) ++
        [([], tree)] := by
  cases tree
  rw [postorder, postorderAll_eq]

/-- **Every node is listed with its address**, and nothing else is. -/
theorem mem_postorder_iff {tree node : Tree} {address : List Nat} :
    (address, node) ∈ tree.postorder ↔ tree.at? address = some node := by
  induction tree using Tree.induction generalizing address with
  | node tree ih =>
    rw [postorder_eq, List.mem_append, List.mem_flatMap, List.mem_singleton]
    cases address with
    | nil =>
      -- Below a child no address is empty, so this can be the root only.
      simp [lift, at?, eq_comm]
    | cons index address =>
      simp only [at?, Option.bind_eq_some_iff]
      constructor
      · rintro (⟨⟨child, _⟩, hchild, hentry⟩ | hroot)
        · obtain ⟨⟨_, _⟩, hmem, heq⟩ := List.mem_map.1 hentry
          cases heq
          have hget := List.mem_zipIdx_iff_getElem?.1 hchild
          exact ⟨child, hget, (ih child (List.mem_of_getElem? hget)).1 hmem⟩
        · cases hroot
      · rintro ⟨child, hget, hnode⟩
        have hmem := (ih child (List.mem_of_getElem? hget)).2 hnode
        exact .inl ⟨(child, index), List.mem_zipIdx_iff_getElem?.2 hget,
          List.mem_map.2 ⟨(address, node), hmem, rfl⟩⟩

/-! ### The first fault in post-order -/

/-- **First node in post-order with a fault**, with its address. -/
def firstFault? (tree : Tree) : Option (List Nat × Tree) :=
  tree.postorder.find? (·.2.fault.isSome)

theorem firstFault?_eq_none {tree : Tree} (h : tree.hasFault = false) :
    tree.firstFault? = none := by
  refine List.find?_eq_none.2 fun entry hentry => ?_
  have hnode := mem_nodes_of_at? (mem_postorder_iff.1 hentry)
  rw [fault_eq_none_of_mem_nodes h hnode]
  exact Bool.false_ne_true

/-- The first fault is below the first child that has one in or below it, or else at the node. -/
theorem firstFault?_eq (tree : Tree) :
    tree.firstFault? =
      (tree.children.zipIdx.findSome? fun item => item.1.firstFault?.map (lift item.2)).or
        (if tree.fault.isSome then some ([], tree) else none) := by
  -- The test looks at the node of an entry only, so the number in front makes no difference to it.
  have hlift : ∀ item : Tree × Nat,
      (item.1.postorder.map (lift item.2)).find? (·.2.fault.isSome) =
        item.1.firstFault?.map (lift item.2) := fun item => List.find?_map
  rw [firstFault?, postorder_eq, List.find?_append, List.find?_flatMap, List.find?_singleton]
  simp only [hlift]

theorem findSome?_firstFault?_eq_none {trees : List Tree}
    (h : ∀ tree ∈ trees, tree.hasFault = false) :
    (trees.zipIdx.findSome? fun item => item.1.firstFault?.map (lift item.2)) = none := by
  refine List.findSome?_eq_none_iff.2 fun item hitem => ?_
  rw [firstFault?_eq_none (h item.1 (List.fst_mem_of_mem_zipIdx hitem)), Option.map_none]

theorem firstFault?_eq_self {tree : Tree} (hfault : tree.fault ≠ none)
    (hchildren : ∀ child ∈ tree.children, child.hasFault = false) :
    tree.firstFault? = some ([], tree) := by
  rw [firstFault?_eq, findSome?_firstFault?_eq_none hchildren, Option.none_or,
    if_pos (Option.isSome_iff_ne_none.2 hfault)]

theorem firstFault?_eq_of_children {tree child : Tree} {before after : List Tree}
    {entry : List Nat × Tree} (hchildren : tree.children = before ++ child :: after)
    (hbefore : ∀ sibling ∈ before, sibling.hasFault = false)
    (h : child.firstFault? = some entry) :
    tree.firstFault? = some (lift before.length entry) := by
  rw [firstFault?_eq, hchildren, List.zipIdx_append, List.findSome?_append,
    findSome?_firstFault?_eq_none hbefore, Option.none_or, List.zipIdx_cons, List.findSome?_cons,
    Nat.zero_add, h]
  rfl

/-! ### Where a tree fails -/

/-- **No node has a fault.** -/
def Faultless (tree : Tree) : Prop := ∀ node ∈ tree.nodes, node.fault = none

/-- **A child is the first one with a fault** in or below it. -/
def IsFirstFaulty (parent child : Tree) : Prop :=
  ∃ before after, parent.children = before ++ child :: after ∧
    (∀ sibling ∈ before, sibling.Faultless) ∧ ¬ child.Faultless

/-- **A tree fails first at an address**, where a certain node is. -/
structure FailsFirstAt (tree : Tree) (address : List Nat) (node : Tree) : Prop where
  /-- The node is at the address. -/
  located : tree.at? address = some node
  /-- It has a fault. -/
  fault : node.fault ≠ none
  /-- No node below it has one. -/
  innermost : ∀ child ∈ node.children, child.Faultless
  /-- It is the first node in post-order that has one. -/
  first : tree.firstFault? = some (address, node)
  /-- It is the failure that is found. -/
  failure : tree.failure? = some node
  /-- The way to the failure is the way to the address. -/
  path : tree.failurePath = tree.along address
  /-- It begins at the root, -/
  path_head : tree.failurePath.head? = some tree
  /-- leads always to the first child with a fault in or below it, -/
  path_chain : tree.failurePath.IsChain IsFirstFaulty
  /-- and ends at the node. -/
  path_last : tree.failurePath.getLast? = some node

theorem isFirstFaulty_of_children {tree child : Tree} {before after : List Tree}
    (hchildren : tree.children = before ++ child :: after)
    (hbefore : ∀ sibling ∈ before, sibling.hasFault = false) (h : child.hasFault = true) :
    IsFirstFaulty tree child := by
  refine ⟨before, after, hchildren, fun sibling hsibling => ?_, fun hfaultless => ?_⟩
  · exact hasFault_eq_false_iff_nodes.1 (hbefore sibling hsibling)
  · exact Bool.false_ne_true ((hasFault_eq_false_iff_nodes.2 hfaultless).symm.trans h)

/-- **A node with a fault and none below it** is where it fails itself. -/
theorem failsFirstAt_self {tree : Tree} (hfault : tree.fault ≠ none)
    (hchildren : ∀ child ∈ tree.children, child.hasFault = false) :
    tree.FailsFirstAt [] tree := by
  have hpath := failurePath_eq_self hfault hchildren
  exact {
    located := rfl
    fault := hfault
    innermost := fun child hchild => hasFault_eq_false_iff_nodes.1 (hchildren child hchild)
    first := firstFault?_eq_self hfault hchildren
    failure := failure?_eq_self hfault hchildren
    path := by rw [hpath, along_nil]
    path_head := by rw [hpath, List.head?_cons]
    path_chain := by rw [hpath]; exact .singleton tree
    path_last := by rw [hpath, List.getLast?_singleton] }

/-- **A node fails where its first child fails that has a fault** in or below it, with or without a
fault of its own, and whatever is in the children behind. -/
theorem FailsFirstAt.parent {tree child node : Tree} {before after : List Tree} {address : List Nat}
    (hchildren : tree.children = before ++ child :: after)
    (hbefore : ∀ sibling ∈ before, sibling.hasFault = false)
    (h : child.FailsFirstAt address node) :
    tree.FailsFirstAt (before.length :: address) node := by
  have hchild : child.hasFault = true := hasFault_of_failure? h.failure
  have hget : tree.children[before.length]? = some child := by
    rw [hchildren, List.getElem?_append_right (Nat.le_refl _), Nat.sub_self,
      List.getElem?_cons_zero]
  have hpath := failurePath_eq_of_children hchildren hbefore hchild
  -- It is the same node; the address and the way get one more step in front.
  exact {
    located := (at?_cons hget address).trans h.located
    fault := h.fault
    innermost := h.innermost
    first := firstFault?_eq_of_children hchildren hbefore h.first
    failure := failure?_eq_of_children hchildren hbefore h.failure
    path := by rw [hpath, along_cons hget, h.path]
    path_head := by rw [hpath, List.head?_cons]
    path_chain := by
      rw [hpath]
      refine List.isChain_cons.2 ⟨fun next hnext => ?_, h.path_chain⟩
      rw [h.path_head] at hnext
      exact Option.some.inj hnext ▸ isFirstFaulty_of_children hchildren hbefore hchild
    path_last := by rw [hpath, List.getLast?_cons, h.path_last, Option.getD_some] }

/-- **A tree with a fault fails somewhere.** -/
theorem exists_failsFirstAt {tree : Tree} (h : tree.hasFault = true) :
    ∃ address node, tree.FailsFirstAt address node := by
  induction tree using Tree.induction with
  | node tree ih =>
    cases hfind : tree.children.find? hasFault with
    | none =>
      -- The fault is not below the node.
      have hchildren : ∀ child ∈ tree.children, child.hasFault = false := fun child hchild =>
        Bool.not_eq_true _ ▸ List.find?_eq_none.1 hfind child hchild
      have hfault : tree.fault ≠ none := by
        intro hnone
        rw [hasFault_eq_false.2 ⟨hnone, hchildren⟩] at h
        cases h
      exact ⟨[], tree, failsFirstAt_self hfault hchildren⟩
    | some child =>
      obtain ⟨hfault, before, after, hchildren, hbefore⟩ := List.find?_eq_some_iff_append.1 hfind
      obtain ⟨address, node, hnode⟩ := ih child (List.mem_of_find?_eq_some hfind) hfault
      refine ⟨before.length :: address, node, hnode.parent hchildren fun sibling hsibling => ?_⟩
      exact Bool.not_eq_true' _ ▸ hbefore sibling hsibling

/-- **The queries about faults agree.** There is a fault exactly if a failure is found, exactly if
there is a way to it, and exactly if some node has a fault; and then the way leads from the root,
always to the first child with a fault in or below it, to the node that is found, which is the first
one in post-order that has a fault. -/
theorem fault_queries_agree (tree : Tree) :
    (tree.hasFault = true ↔ tree.failure? ≠ none) ∧
    (tree.hasFault = true ↔ tree.failurePath ≠ []) ∧
    (tree.hasFault = true ↔ ∃ node ∈ tree.nodes, node.fault ≠ none) ∧
    (tree.failurePath ≠ [] → ∃ address node, tree.FailsFirstAt address node) := by
  have hpath : tree.hasFault = true ↔ tree.failurePath ≠ [] := by
    rw [Ne, failurePath_eq_nil_iff, Bool.not_eq_false]
  refine ⟨⟨fun h => ?_, fun h => ?_⟩, hpath, ?_, fun h => exists_failsFirstAt (hpath.2 h)⟩
  · obtain ⟨address, node, hnode⟩ := exists_failsFirstAt h
    rw [hnode.failure]
    exact Option.some_ne_none node
  · obtain ⟨node, hnode⟩ := Option.ne_none_iff_exists'.1 h
    exact hasFault_of_failure? hnode
  · rw [← Bool.not_eq_false, hasFault_eq_false_iff_nodes]
    simp only [not_forall, exists_prop, ne_eq]

/-- A tree with faults in several branches: below two nodes that have none, where the same node
stands twice, in a branch behind, and at the root. -/
def scattered : Tree :=
  ⟨"S", 0, 4, [⟨"a", 0, 1, [], none⟩,
    ⟨"T", 1, 2, [⟨"b", 1, 1, [], none⟩,
      ⟨"U", 1, 2, [.failed "c" 2 .noMatch, .failed "c" 2 .noMatch], none⟩], none⟩,
    ⟨"V", 2, 3, [.failed "d" 3 .unterminatedComment], some .noMatch⟩],
    some (.unparsableAfter "S")⟩

theorem fault_queries_agree_scattered :
    scattered.failurePath ≠ [] ∧
      scattered.FailsFirstAt [1, 1, 0] (.failed "c" 2 .noMatch) ∧
      scattered.failurePath.map (·.symbol) = ["S", "T", "U", "c"] := by
  have hpath : scattered.failurePath ≠ [] := by decide
  obtain ⟨address, node, h⟩ := (fault_queries_agree scattered).2.2.2 hpath
  -- The address is the one of the first of the two equal nodes.
  have hfirst : scattered.firstFault? = some ([1, 1, 0], .failed "c" 2 .noMatch) := rfl
  rw [h.first] at hfirst
  cases hfirst
  exact ⟨hpath, h, rfl⟩

end OrderedChoice.Tree
