import OrderedChoice.Proofs.Bound
import OrderedChoice.Proofs.Walk

/-!
# The failure point

A tree that records a failure records exactly one. A node fails because its last child does, all
the way down to a leaf of no width, and everything to the left of that way is without a fault.

* `Tree.Fails` is this shape, and `Grammar.Matches.fails` says that a failed run gives it.
* `Tree.FailsOnlyAt` is what a reader of the tree sees of it: the only leaf with a fault is the
  last one, and both `Tree.failure?` and `Tree.failurePath` lead there.
* `Grammar.failure_point_unique`: so it is for every parse, and only a tree whose root has matched
  has faults on less than the whole way.
-/

namespace OrderedChoice

namespace Tree

/-! ### Trees without a fault -/

theorem mem_nodes_of_mem_leaves {tree leaf : Tree} (h : leaf ∈ tree.leaves) :
    leaf ∈ tree.nodes := by
  induction tree using Tree.induction with
  | node tree ih =>
    by_cases hchildren : tree.children = []
    · rw [leaves_of_children_nil hchildren, List.mem_singleton] at h
      exact h ▸ self_mem_nodes tree
    · rw [leaves_of_children_ne_nil hchildren, List.mem_flatMap] at h
      obtain ⟨child, hchild, hleaf⟩ := h
      exact mem_nodes.2 (.inr ⟨child, hchild, ih child hchild hleaf⟩)

theorem fault_eq_none_of_mem_leaves {tree leaf : Tree} (h : tree.hasFault = false)
    (hleaf : leaf ∈ tree.leaves) : leaf.fault = none :=
  fault_eq_none_of_mem_nodes h (mem_nodes_of_mem_leaves hleaf)

section

variable {before : List Tree} (hbefore : ∀ child ∈ before, child.hasFault = false)

include hbefore

theorem filter_nodes_eq_nil : (before.flatMap nodes).filter (·.fault.isSome) = [] := by
  refine List.filter_eq_nil_iff.2 fun node hnode => ?_
  obtain ⟨child, hchild, hnode⟩ := List.mem_flatMap.1 hnode
  rw [fault_eq_none_of_mem_nodes (hbefore child hchild) hnode]
  exact Bool.false_ne_true

theorem filter_leaves_eq_nil : (before.flatMap leaves).filter (·.fault.isSome) = [] := by
  refine List.filter_eq_nil_iff.2 fun leaf hleaf => ?_
  obtain ⟨child, hchild, hleaf⟩ := List.mem_flatMap.1 hleaf
  rw [fault_eq_none_of_mem_leaves (hbefore child hchild) hleaf]
  exact Bool.false_ne_true

end

/-! ### The only failure -/

/-- **A tree fails at a leaf and nowhere else.** -/
structure FailsOnlyAt (tree leaf : Tree) : Prop where
  /-- No other leaf has a fault. -/
  only : tree.leaves.filter (·.fault.isSome) = [leaf]
  /-- It is the last leaf. -/
  last : tree.leaves.getLast? = some leaf
  /-- It has no children. -/
  childless : leaf.children = []
  /-- It has no width. -/
  width : leaf.start = leaf.stop
  /-- The tree ends there. -/
  stop : leaf.stop = tree.stop
  /-- It is the failure that is found. -/
  failure : tree.failure? = some leaf
  /-- The way to the failure begins at the root, -/
  path_head : tree.failurePath.head? = some tree
  /-- ends at the leaf, -/
  path_last : tree.failurePath.getLast? = some leaf
  /-- leads always to the last child, -/
  path_chain : tree.failurePath.IsChain fun parent child => parent.children.getLast? = some child
  /-- and all its nodes end there. -/
  path_stop : ∀ node ∈ tree.failurePath, node.stop = tree.stop

theorem failurePath_failed (symbol : String) (place : Nat) (fault : Fault) :
    (failed symbol place fault).failurePath = [failed symbol place fault] :=
  failurePath_eq_self (Option.some_ne_none fault) fun _ hchild => absurd hchild List.not_mem_nil

/-- A leaf that has failed fails at itself. -/
theorem failsOnlyAt_failed (symbol : String) (place : Nat) (fault : Fault) :
    (failed symbol place fault).FailsOnlyAt (failed symbol place fault) where
  only := rfl
  last := rfl
  childless := rfl
  width := rfl
  stop := rfl
  failure := rfl
  path_head := by rw [failurePath_failed]; rfl
  path_last := by rw [failurePath_failed]; rfl
  path_chain := by rw [failurePath_failed]; exact .singleton _
  path_stop := by
    intro node hnode
    rw [failurePath_failed, List.mem_singleton] at hnode
    rw [hnode]

theorem FailsOnlyAt.hasFault {tree leaf : Tree} (h : tree.FailsOnlyAt leaf) :
    tree.hasFault = true :=
  hasFault_of_failure? h.failure

theorem FailsOnlyAt.exists_fault {tree leaf : Tree} (h : tree.FailsOnlyAt leaf) :
    ∃ fault, leaf.fault = some fault := by
  have hmem : leaf ∈ tree.leaves.filter (·.fault.isSome) := by
    rw [h.only]
    exact List.mem_singleton_self leaf
  exact Option.isSome_iff_exists.1 (List.mem_filter.1 hmem).2

section

variable {before : List Tree} {last leaf : Tree}

/-- The way to the failure of the last child, from the node above it. -/
theorem FailsOnlyAt.failurePath_parent (symbol : String) (start : Nat) (fault : Option Fault)
    (hbefore : ∀ child ∈ before, child.hasFault = false) (h : last.FailsOnlyAt leaf) :
    (⟨symbol, start, last.stop, before ++ [last], fault⟩ : Tree).failurePath =
      ⟨symbol, start, last.stop, before ++ [last], fault⟩ :: last.failurePath :=
  -- The way down goes through the first child with a fault, and that is the last one.
  failurePath_eq_of_children rfl hbefore h.hasFault

/-- **A node whose last child fails and whose other children do not fails at the same leaf**, with
or without a fault of its own. -/
theorem FailsOnlyAt.parent (symbol : String) (start : Nat) (fault : Option Fault)
    (hbefore : ∀ child ∈ before, child.hasFault = false) (h : last.FailsOnlyAt leaf) :
    (⟨symbol, start, last.stop, before ++ [last], fault⟩ : Tree).FailsOnlyAt leaf := by
  have hne : before ++ [last] ≠ [] := List.append_ne_nil_of_right_ne_nil _ (List.cons_ne_nil _ _)
  have hleaves : (⟨symbol, start, last.stop, before ++ [last], fault⟩ : Tree).leaves =
      before.flatMap leaves ++ last.leaves := by
    rw [leaves_of_children_ne_nil hne, List.flatMap_append, List.flatMap_singleton]
  have hpath := h.failurePath_parent symbol start fault hbefore
  -- The leaf is the same one; the leaves and the way are the last child's, with more in front.
  refine ⟨?_, ?_, h.childless, h.width, h.stop, ?_, ?_, ?_, ?_, ?_⟩
  · rw [hleaves, List.filter_append, filter_leaves_eq_nil hbefore, h.only, List.nil_append]
  · rw [hleaves, List.getLast?_append, h.last, Option.some_or]
  · exact failure?_eq_of_children rfl hbefore h.failure
  · rw [hpath, List.head?_cons]
  · rw [hpath, List.getLast?_cons, h.path_last, Option.getD_some]
  · rw [hpath]
    refine List.isChain_cons.2 ⟨fun child hchild => ?_, h.path_chain⟩
    rw [h.path_head] at hchild
    rw [← Option.some.inj hchild, List.getLast?_concat]
  · intro node hnode
    rw [hpath] at hnode
    rcases List.mem_cons.1 hnode with rfl | hnode
    · rfl
    · exact h.path_stop node hnode

end

/-- **A tree that has failed**: a leaf of no width, or a node of which the last child has failed in
the same way and the others have not. -/
inductive Fails (fault : Fault) : Tree → Prop where
  | leaf (symbol : String) (place : Nat) : Fails fault (failed symbol place fault)
  | node (symbol : String) (start : Nat) {before : List Tree} {last : Tree} :
    (∀ child ∈ before, child.hasFault = false) → Fails fault last →
      Fails fault ⟨symbol, start, last.stop, before ++ [last], some fault⟩

/-- **A tree that has failed fails at one leaf**, and the faults are all on the way there. -/
theorem Fails.exists_failsOnlyAt {fault : Fault} {tree : Tree} (h : Fails fault tree) :
    ∃ leaf, tree.FailsOnlyAt leaf ∧ tree.nodes.filter (·.fault.isSome) = tree.failurePath ∧
      ∀ node ∈ tree.failurePath, node.fault = some fault := by
  induction h with
  | leaf symbol place =>
    refine ⟨_, failsOnlyAt_failed symbol place fault, ?_, ?_⟩
    · rw [failurePath_failed]
      rfl
    · intro node hnode
      rw [failurePath_failed, List.mem_singleton] at hnode
      rw [hnode]
      rfl
  | @node symbol start before last hbefore _ ih =>
    -- The nodes with a fault are this one, none in the children before the last, and the last's.
    obtain ⟨leaf, hleaf, hnodes, hfaults⟩ := ih
    have hpath := hleaf.failurePath_parent symbol start (some fault) hbefore
    refine ⟨leaf, hleaf.parent symbol start (some fault) hbefore, ?_, ?_⟩
    · rw [hpath, nodes_eq, List.filter_cons_of_pos rfl, List.flatMap_append, List.flatMap_singleton,
        List.filter_append, filter_nodes_eq_nil hbefore, List.nil_append, hnodes]
    · intro node hnode
      rw [hpath] at hnode
      rcases List.mem_cons.1 hnode with rfl | hnode
      · rfl
      · exact hfaults node hnode

end Tree

namespace Grammar

/-! ### Failures behind a root -/

/-- A root with a failure behind it has a fault below it. -/
theorem hasFault_leave (root : Tree) (place : Place) (fault : Fault) :
    (finish.leave root place fault).hasFault = true := by
  have hlast : (Tree.failed "" place.offset fault).hasFault = true := rfl
  rw [Tree.hasFault_eq, finish.leave, List.any_append, List.any_cons, hlast, Bool.true_or,
    Bool.or_true, Bool.or_true]

/-- A root that has matched, with a failure behind it, fails there only. -/
theorem failsOnlyAt_leave {root : Tree} (hroot : root.hasFault = false) (place : Place)
    (fault : Fault) :
    (finish.leave root place fault).FailsOnlyAt (.failed "" place.offset fault) ∧
      (finish.leave root place fault).failurePath =
        [finish.leave root place fault, .failed "" place.offset fault] ∧
      (finish.leave root place fault).nodes.filter (·.fault.isSome) =
        [.failed "" place.offset fault] := by
  obtain ⟨hfault, hchildren⟩ := Tree.hasFault_eq_false.1 hroot
  have hleaf := Tree.failsOnlyAt_failed "" place.offset fault
  have hpath := hleaf.failurePath_parent root.symbol root.start root.fault hchildren
  rw [Tree.failurePath_failed] at hpath
  refine ⟨hleaf.parent root.symbol root.start root.fault hchildren, hpath, ?_⟩
  -- The root stays without a fault of its own, so it drops out of the nodes that have one.
  have hself : ¬ (finish.leave root place fault).fault.isSome = true := by
    change ¬ root.fault.isSome = true
    rw [hfault]
    exact Bool.false_ne_true
  rw [Tree.nodes_eq, List.filter_cons_of_neg (p := fun node : Tree => node.fault.isSome) hself,
    finish.leave, List.flatMap_append, List.flatMap_singleton, List.filter_append,
    Tree.filter_nodes_eq_nil hchildren]
  rfl

section

variable [PatternEngine] {grammar : Grammar}

/-! ### Runs -/

/-- What a run says about faults: its node has none in or below it, or has failed. -/
def FaultsAreRight (tree : Tree) : Prop :=
  (tree.fault = none → tree.hasFault = false) ∧ ∀ fault, tree.fault = some fault → tree.Fails fault

/-- The children of an attempt: none has a fault, or the last one has failed. -/
theorem faults_of_spells {names : List String} {p : Place} {attempt : Attempt}
    (h : Spells (fun name p tree next => grammar.Matches name p tree next ∧ FaultsAreRight tree)
      names p attempt) :
    (attempt.fault = none → ∀ child ∈ attempt.children, child.hasFault = false) ∧
      ∀ fault, attempt.fault = some fault → ∃ before last, attempt.children = before ++ [last] ∧
        (∀ child ∈ before, child.hasFault = false) ∧ last.Fails fault ∧
        last.stop = attempt.place.offset := by
  induction h with
  | nil p => exact ⟨fun _ child hchild => absurd hchild List.not_mem_nil, nofun⟩
  | fail names hchild hfault =>
    -- The only child is the one that has failed.
    refine ⟨nofun, fun fault h => ?_⟩
    obtain rfl := Option.some.inj h
    exact ⟨[], _, rfl, fun child hchild => absurd hchild List.not_mem_nil,
      hchild.2.2 _ hfault, hchild.1.le.2⟩
  | cons hchild hfault _ ih =>
    -- The first child has matched, so it has no fault below it either.
    have hclean := hchild.2.1 hfault
    refine ⟨fun h child hmem => ?_, fun fault h => ?_⟩
    · rcases List.mem_cons.1 hmem with rfl | hmem
      · exact hclean
      · exact ih.1 h child hmem
    · obtain ⟨before, last, hchildren, hbefore, hlast, hstop⟩ := ih.2 fault h
      refine ⟨_ :: before, last, congrArg (_ :: ·) hchildren, fun child hmem => ?_, hlast, hstop⟩
      rcases List.mem_cons.1 hmem with rfl | hmem
      · exact hclean
      · exact hbefore child hmem

/-- **Every run is right about faults.** -/
theorem Matches.fails {name : String} {p next : Place} {tree : Tree}
    (h : grammar.Matches name p tree next) : FaultsAreRight tree := by
  -- A leaf that has failed has the shape that is asked for.
  have hfailed : ∀ name place fault, FaultsAreRight (.failed name place fault) := by
    intro name place fault
    refine ⟨nofun, fun fault' h => ?_⟩
    obtain rfl := Option.some.inj h
    exact .leaf name place
  refine h.node_induction (motive := fun _ _ tree _ => FaultsAreRight tree)
    ?unterminated ?matched ?unmatched ?barren ?spelled
  case unterminated =>
    intro name p opening _
    exact hfailed name opening.offset .unterminatedComment
  case matched =>
    intro name p q pattern n _ _ _ _
    exact ⟨fun _ => rfl, nofun⟩
  case unmatched =>
    intro name p q pattern _ _ _ _
    exact hfailed name q.offset .noMatch
  case barren =>
    intro name p q _ _
    exact hfailed name q.offset .noMatch
  case spelled =>
    intro name p q expansions expansion attempt _ _ _ hspells
    obtain ⟨hclean, hlast⟩ := faults_of_spells hspells
    refine ⟨fun h => Tree.hasFault_eq_false.2 ⟨h, hclean h⟩, fun fault h => ?_⟩
    obtain ⟨before, last, hchildren, hbefore, hfails, hstop⟩ := hlast fault h
    have hnode := Tree.Fails.node name q.offset hbefore hfails
    rw [hstop, ← hchildren, ← h] at hnode
    exact hnode

/-! ### Parses -/

/-- **A failed parse has exactly one failure point.** -/
theorem failure_point_unique {source symbol : String} {tree : Tree}
    (h : grammar.parse source symbol = .ok tree) (hfault : tree.hasFault = true) :
    ∃ leaf, tree.FailsOnlyAt leaf ∧
      (tree.fault ≠ none → tree.nodes.filter (·.fault.isSome) = tree.failurePath ∧
        ∃ fault, ∀ node ∈ tree.failurePath, node.fault = some fault) ∧
      (tree.fault = none → tree.failurePath = [tree, leaf] ∧ leaf.symbol = "" ∧
        tree.nodes.filter (·.fault.isSome) = [leaf]) := by
  obtain ⟨root, place, hmatch, hends⟩ := exists_of_parse_eq_ok h
  obtain ⟨hclean, hfails⟩ := hmatch.fails
  cases hends with
  | failed hroot =>
    -- The whole way from the root has the fault.
    obtain ⟨fault, hroot⟩ := Option.ne_none_iff_exists'.1 hroot
    obtain ⟨leaf, hleaf, hnodes, hfaults⟩ := (hfails fault hroot).exists_failsOnlyAt
    refine ⟨leaf, hleaf, fun _ => ⟨hnodes, fault, hfaults⟩, fun hnone => ?_⟩
    rw [hnone] at hroot
    cases hroot
  | whole hroot _ _ =>
    -- The root is only extended, so there is no fault.
    rw [Tree.hasFault_withStop, hclean hroot] at hfault
    cases hfault
  | left hroot _ _ =>
    -- Only what stands behind the root has a fault, here and in the last case.
    obtain ⟨hleaf, hpath, hnodes⟩ := failsOnlyAt_leave (hclean hroot) _ (.unparsableAfter symbol)
    exact ⟨_, hleaf, fun hsome => absurd hroot hsome, fun _ => ⟨hpath, rfl, hnodes⟩⟩
  | unclosed hroot _ =>
    obtain ⟨hleaf, hpath, hnodes⟩ := failsOnlyAt_leave (hclean hroot) _ .unterminatedComment
    exact ⟨_, hleaf, fun hsome => absurd hroot hsome, fun _ => ⟨hpath, rfl, hnodes⟩⟩

end

theorem failure_point_unique_brokenRow :
    rows.parse "a /*é*/ b z" "Row" = .ok brokenRow ∧ brokenRow.hasFault = true ∧
      ∃ leaf, brokenRow.FailsOnlyAt leaf ∧ brokenRow.failurePath = [brokenRow, leaf] := by
  have hparse : rows.parse "a /*é*/ b z" "Row" = .ok brokenRow := by cbv
  have hfault : brokenRow.hasFault = true := by cbv
  obtain ⟨leaf, hleaf, -, hclean⟩ := failure_point_unique hparse hfault
  exact ⟨hparse, hfault, leaf, hleaf, (hclean rfl).1⟩

end Grammar

end OrderedChoice
