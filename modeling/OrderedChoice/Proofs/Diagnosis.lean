import OrderedChoice.Diagnostic
import OrderedChoice.Proofs.Derivation
import OrderedChoice.Proofs.Spans

/-!
# Diagnostics point at the true place

A diagnostic is made from the way to the failure alone: its last node is the one that failed, and
the node in front of that one has run out of expansions. Neither the rest of the tree nor the
grammar is looked at. That the way leads to the right nodes is a matter of the shape of the tree: a
tree that has failed hands its fault up through last children only, so the node in front of the
failure is the one node of the tree that has the failure among its children, and all of them end
where the tree does.

* `Tree.IsParent` says what a reader of the tree takes for the node above the failure, and
  `Tree.Fails.exists_parent` that it is the last but one on the way there.
* `Diagnostic.ofTree?_eq_none_iff`: there is no diagnostic exactly if there is no fault.
* `Diagnostic.ofTree?_of_failurePath`: what a diagnostic says, by the last two nodes of the way.
* `Grammar.diagnostic_points_at_failure`: for a parse, all that it says is true.
-/

namespace OrderedChoice

namespace Tree

/-! ### The node above the failure -/

/-- A child of a node is a node of the tree, too. -/
theorem mem_nodes_of_mem_children {tree node child : Tree} (hnode : node ∈ tree.nodes)
    (hchild : child ∈ node.children) : child ∈ tree.nodes := by
  induction tree using Tree.induction with
  | node tree ih =>
    rcases mem_nodes.1 hnode with rfl | ⟨first, hfirst, hnode⟩
    · exact mem_nodes.2 (.inr ⟨child, hchild, self_mem_nodes child⟩)
    · exact mem_nodes.2 (.inr ⟨first, hfirst, ih first hfirst hnode⟩)

/-- Below a node without children there is no node that has it as a child. -/
theorem not_mem_children_of_mem_nodes {leaf node : Tree} (hleaf : leaf.children = [])
    (hnode : node ∈ leaf.nodes) : leaf ∉ node.children := by
  rcases mem_nodes.1 hnode with rfl | ⟨child, hchild, -⟩
  · rw [hleaf]
    exact List.not_mem_nil
  · rw [hleaf] at hchild
    exact absurd hchild List.not_mem_nil

/-- **The node above a leaf**: the one node of the tree that has the leaf among its children. -/
structure IsParent (tree leaf parent : Tree) : Prop where
  /-- It is a node of the tree. -/
  mem : parent ∈ tree.nodes
  /-- The leaf is one of its children. -/
  child : leaf ∈ parent.children
  /-- No other node has the leaf among its children. -/
  unique : ∀ node ∈ tree.nodes, leaf ∈ node.children → node = parent

section

variable {before : List Tree} {last leaf : Tree}

/-- A leaf with a fault is below the last child, if the children in front of that have none. -/
theorem eq_or_mem_nodes_last {symbol : String} {start stop : Nat} {fault : Option Fault}
    {node : Tree} (hbefore : ∀ child ∈ before, child.hasFault = false) (hleaf : leaf.fault ≠ none)
    (hnode : node ∈ (⟨symbol, start, stop, before ++ [last], fault⟩ : Tree).nodes)
    (hchild : leaf ∈ node.children) :
    node = ⟨symbol, start, stop, before ++ [last], fault⟩ ∧ leaf = last ∨ node ∈ last.nodes := by
  rcases mem_nodes.1 hnode with rfl | ⟨first, hfirst, hnode⟩
  · rcases List.mem_append.1 hchild with hchild | hchild
    · exact absurd (hasFault_eq_false.1 (hbefore leaf hchild)).1 hleaf
    · exact .inl ⟨rfl, List.mem_singleton.1 hchild⟩
  · rcases List.mem_append.1 hfirst with hfirst | hfirst
    · -- The leaf would be a node with a fault where there is none.
      have hmem := mem_nodes_of_mem_children hnode hchild
      exact absurd (fault_eq_none_of_mem_nodes (hbefore first hfirst) hmem) hleaf
    · exact .inr (List.mem_singleton.1 hfirst ▸ hnode)

end

/-- **The last but one on the way to the failure** is the node above it; only where the root itself
is the failure there is none. -/
theorem Fails.exists_parent {fault : Fault} {tree leaf : Tree} (h : tree.Fails fault)
    (hleaf : tree.FailsOnlyAt leaf) :
    tree = leaf ∧ tree.failurePath = [leaf] ∨
      ∃ above parent, tree.failurePath = above ++ [parent, leaf] ∧ tree.IsParent leaf parent := by
  induction h with
  | leaf symbol place =>
    obtain rfl : failed symbol place fault = leaf := Option.some.inj hleaf.failure
    exact .inl ⟨rfl, failurePath_failed symbol place fault⟩
  | @node symbol start before last hbefore hlast ih =>
    obtain ⟨found, hfound, -, -⟩ := hlast.exists_failsOnlyAt
    have hparent := hfound.parent symbol start (some fault) hbefore
    obtain rfl : found = leaf := Option.some.inj (hparent.failure.symm.trans hleaf.failure)
    have hpath := hfound.failurePath_parent symbol start (some fault) hbefore
    have hsome : found.fault ≠ none := Option.ne_none_iff_exists'.2 hfound.exists_fault
    rcases ih hfound with ⟨rfl, hlastPath⟩ | ⟨above, parent, hlastPath, hinner⟩
    · -- The last child is the failure, so this node is above it.
      refine .inr ⟨[], _, by rw [hpath, hlastPath, List.nil_append], self_mem_nodes _,
        List.mem_append_right before (List.mem_singleton_self _), fun node hnode hchild => ?_⟩
      rcases eq_or_mem_nodes_last hbefore hsome hnode hchild with ⟨hnode, -⟩ | hbelow
      · exact hnode
      · exact absurd hchild (not_mem_children_of_mem_nodes hfound.childless hbelow)
    · -- The failure is further down, and so is the node above it.
      have hmem := List.mem_append_right before (List.mem_singleton_self last)
      refine .inr ⟨_ :: above, parent, by rw [hpath, hlastPath, List.cons_append],
        mem_nodes.2 (.inr ⟨last, hmem, hinner.mem⟩), hinner.child, fun node hnode hchild => ?_⟩
      rcases eq_or_mem_nodes_last hbefore hsome hnode hchild with ⟨-, rfl⟩ | hbelow
      · have hnone := not_mem_children_of_mem_nodes hfound.childless hinner.mem
        exact absurd hinner.child hnone
      · exact hinner.unique node hbelow hchild

end Tree

/-! ### What a diagnostic says -/

namespace Diagnostic

/-- **Diagnostic of a failure** in a node with a name. -/
def ofFailure (source : String) (leaf : Tree) (enclosing : String) (fault : Fault) :
    Diagnostic where
  fault := fault
  symbol := leaf.symbol
  line := leaf.startLine source + 1
  label := ⟨leaf.start, leaf.stop - leaf.start, (remarks leaf.symbol enclosing fault).1⟩
  help := some (remarks leaf.symbol enclosing fault).2

/-- **A diagnostic tells of the last two nodes** on the way to the failure. -/
theorem ofTree?_of_failurePath {tree leaf : Tree} {fault : Fault} (source : String)
    (above : List Tree) (hpath : tree.failurePath = above ++ [leaf])
    (hfault : leaf.fault = some fault) :
    ofTree? source tree =
      some (ofFailure source leaf (above.getLast?.getD leaf).symbol fault) := by
  have hreverse : tree.failurePath.reverse = leaf :: above.reverse := by
    rw [hpath, List.reverse_append, List.reverse_singleton, List.singleton_append]
  simp only [ofTree?, hreverse, hfault, Option.map_some, List.head?_reverse]
  rfl

/-- **There is no diagnostic exactly if there is no fault.** -/
theorem ofTree?_eq_none_iff (source : String) (tree : Tree) :
    ofTree? source tree = none ↔ tree.hasFault = false := by
  rw [← Tree.failurePath_eq_nil_iff]
  rcases List.eq_nil_or_concat tree.failurePath with hnil | ⟨above, leaf, hpath⟩
  · simp only [ofTree?, hnil, List.reverse_nil]
  · -- The way ends at a node with a fault, so there is something to report.
    have hlast : tree.failurePath.getLast? = some leaf := by
      rw [hpath, List.concat_eq_append, List.getLast?_concat]
    obtain ⟨fault, hfault⟩ := Tree.exists_fault_of_getLast?_failurePath hlast
    rw [List.concat_eq_append] at hpath
    rw [ofTree?_of_failurePath source above hpath hfault, hpath]
    simp only [reduceCtorEq, List.append_eq_nil_iff, List.cons_ne_nil, and_false]

end Diagnostic

namespace Grammar

section

variable [PatternEngine] {grammar : Grammar}

/-! ### Diagnostics of a parse -/

/-- **A nonterminal has run out of expansions** at the failure of a tree: the node above the failure
has its name, or the root is the failure itself, and then the symbol of the parse has no
expansions. -/
def RanOut (grammar : Grammar) (top : String) (tree leaf : Tree) (name : String) : Prop :=
  grammar.isNonterminal name = true ∧
    ((∃ parent, tree.IsParent leaf parent ∧ name = parent.symbol) ∨
      tree = leaf ∧ name = top ∧ grammar.rules.get? top = some [])

/-- **A diagnostic points at a leaf** of the tree of a parse. -/
structure PointsAt (grammar : Grammar) (source top : String) (tree leaf : Tree)
    (diagnostic : Diagnostic) : Prop where
  /-- The leaf is the failure of the tree. -/
  failure : tree.failure? = some leaf
  /-- The diagnostic has its fault -/
  fault : leaf.fault = some diagnostic.fault
  /-- and its name. -/
  symbol : diagnostic.symbol = leaf.symbol
  /-- The mark is where the tree ends, -/
  offset : diagnostic.offset = tree.stop
  /-- and has no width. -/
  width : diagnostic.label.length = 0
  /-- The line is the one after all line feeds in front of the mark. -/
  line : ∃ before after, source.toList = before ++ after ∧
    diagnostic.offset = Text.byteLength before ∧ diagnostic.line = 1 + before.count '\n'
  /-- What may help names the nonterminal that has run out of expansions. -/
  help : diagnostic.fault = .noMatch → ∃ name, grammar.RanOut top tree leaf name ∧
    diagnostic.help =
      some ("no alternative of " ++ Diagnostic.backquoted name ++ " matches here")

/-- A node that has children is one of a nonterminal. -/
theorem IsA.isNonterminal {text : List Char} {node child : Tree} {kind : NodeKind}
    (h : grammar.IsA text node kind) (hchild : child ∈ node.children) :
    grammar.isNonterminal node.symbol = true := by
  cases kind with
  | word => exact absurd (h.2.1 ▸ hchild) List.not_mem_nil
  | phrase =>
    obtain ⟨-, expansions, expansion, hget, -⟩ := h
    exact isNonterminal_of_get? hget
  | fragment =>
    obtain ⟨-, expansions, -, -, -, -, hget, -⟩ := h
    exact isNonterminal_of_get? hget
  | halt => exact absurd (h.1 ▸ hchild) List.not_mem_nil

/-- A nonterminal that does not match and has no child has no expansions. -/
theorem IsA.get?_eq_nil {text : List Char} {node : Tree} {kind : NodeKind}
    (h : grammar.IsA text node kind) (hnode : grammar.isNonterminal node.symbol = true)
    (hchildren : node.children = []) (hfault : node.fault = some .noMatch) :
    grammar.rules.get? node.symbol = some [] := by
  have hsome : node.fault ≠ none := Option.ne_none_iff_exists'.2 ⟨_, hfault⟩
  rcases h.fault_ne_none_iff.1 hsome with rfl | rfl
  · -- A fragment has a last child.
    obtain ⟨fault, -, -, before, last, -, -, -, -, hlast, -⟩ := h
    rw [hchildren] at hlast
    exact absurd hlast.symm (List.append_ne_nil_of_right_ne_nil _ (List.cons_ne_nil _ _))
  · obtain ⟨-, -, hcomment | ⟨-, ⟨pattern, hcompiles⟩ | hget⟩⟩ := h
    · cases hcomment.symm.trans hfault
    · -- It would be a terminal.
      rw [hcompiles.isNonterminal_eq_false] at hnode
      cases hnode
    · exact hget

section

variable {source top : String} {tree leaf : Tree} {fault : Fault}

/-- All that a diagnostic says about a place comes from the shape of the tree, and so does the rest
but for the name in what may help. -/
theorem pointsAt_ofFailure {enclosing : String} (hleaf : tree.FailsOnlyAt leaf)
    (hfault : leaf.fault = some fault) (hcovers : leaf.Covers source.toList)
    (hname : fault = .noMatch → grammar.RanOut top tree leaf enclosing) :
    grammar.PointsAt source top tree leaf (.ofFailure source leaf enclosing fault) where
  failure := hleaf.failure
  fault := hfault
  symbol := rfl
  offset := hleaf.width.trans hleaf.stop
  width := by
    change leaf.stop - leaf.start = 0
    rw [hleaf.width, Nat.sub_self]
  line := by
    obtain ⟨before, after, htext, hstart⟩ := hcovers.start_boundary
    refine ⟨before, after, htext, hstart, ?_⟩
    change Text.lineOf leaf.start source.toList + 1 = 1 + before.count '\n'
    rw [Text.lineOf, htext, hstart, Text.takeBytes_append, Text.lineFeeds, Nat.add_comm]
  help := by
    rintro rfl
    exact ⟨enclosing, hname rfl, rfl⟩

/-- **A root that has failed** gets a diagnostic that points at the failure below it. -/
theorem exists_pointsAt_of_fails (hfails : tree.Fails fault)
    (hcovers : ∀ node ∈ tree.nodes, node.Covers source.toList)
    (hkinds : ∀ node ∈ tree.nodes, ∃ kind, grammar.IsA source.toList node kind)
    (hsymbol : tree.symbol = top) (htop : grammar.isNonterminal top = true) :
    ∃ leaf diagnostic, Diagnostic.ofTree? source tree = some diagnostic ∧
      grammar.PointsAt source top tree leaf diagnostic := by
  obtain ⟨leaf, hleaf, -, hfaults⟩ := hfails.exists_failsOnlyAt
  have hlast : leaf ∈ tree.failurePath := List.mem_of_getLast? hleaf.path_last
  have hfault : leaf.fault = some fault := hfaults leaf hlast
  have hcover := hcovers leaf (Tree.mem_nodes_of_mem_failurePath hlast)
  rcases hfails.exists_parent hleaf with ⟨rfl, hpath⟩ | ⟨above, parent, hpath, hparent⟩
  · -- The root is the failure itself.
    refine ⟨_, _, Diagnostic.ofTree?_of_failurePath source [] hpath hfault,
      pointsAt_ofFailure hleaf hfault hcover fun hnone => ?_⟩
    obtain ⟨kind, hkind⟩ := hkinds _ (Tree.self_mem_nodes _)
    subst hnone hsymbol
    exact ⟨htop, .inr ⟨rfl, rfl, hkind.get?_eq_nil htop hleaf.childless hfault⟩⟩
  · refine ⟨_, _, Diagnostic.ofTree?_of_failurePath source (above ++ [parent]) ?_ hfault,
      pointsAt_ofFailure hleaf hfault hcover fun _ => ?_⟩
    · rw [hpath, List.append_assoc, List.singleton_append]
    · obtain ⟨kind, hkind⟩ := hkinds parent hparent.mem
      rw [List.getLast?_concat, Option.getD_some]
      exact ⟨hkind.isNonterminal hparent.child, .inl ⟨parent, hparent, rfl⟩⟩

/-- **A root with a failure behind it** gets a diagnostic that points there. -/
theorem exists_pointsAt_leave {root : Tree} {place : Place} (hroot : root.hasFault = false)
    (hfault : fault ≠ .noMatch)
    (hcovers : ∀ node ∈ (finish.leave root place fault).nodes, node.Covers source.toList) :
    ∃ leaf diagnostic, Diagnostic.ofTree? source (finish.leave root place fault) = some diagnostic ∧
      grammar.PointsAt source top (finish.leave root place fault) leaf diagnostic := by
  obtain ⟨hleaf, hpath, -⟩ := failsOnlyAt_leave hroot place fault
  have hlast := Tree.mem_nodes_of_mem_failurePath (List.mem_of_getLast? hleaf.path_last)
  exact ⟨_, _, Diagnostic.ofTree?_of_failurePath source [_] hpath rfl,
    pointsAt_ofFailure hleaf rfl (hcovers _ hlast) fun hnone => absurd hnone hfault⟩

end

/-- **The diagnostic of a parse points at the true place.** There is one exactly if the tree has a
fault. It has the fault and the name of the failure and marks, without any width, where the tree
ends, in the line of that place; and if there is no match, what may help names the nonterminal that
has run out of expansions there. -/
theorem diagnostic_points_at_failure {source symbol : String} {tree : Tree}
    (h : grammar.parse source symbol = .ok tree) :
    ((Diagnostic.ofTree? source tree).isSome = true ↔ tree.hasFault = true) ∧
      ∀ diagnostic, Diagnostic.ofTree? source tree = some diagnostic →
        ∃ leaf, grammar.PointsAt source symbol tree leaf diagnostic := by
  have hsymbol := (parse_eq_ok_iff.1 h).1
  have hbegin := Place.at_begin source.toList
  obtain ⟨root, place, hmatch, hends⟩ := exists_of_parse_eq_ok h
  have hcovers := (hends.spansNested hmatch hbegin).covers
  obtain ⟨hclean, hfails⟩ := hmatch.fails
  have hiff : (Diagnostic.ofTree? source tree).isSome = true ↔ tree.hasFault = true := by
    rw [Option.isSome_iff_ne_none, Ne, Diagnostic.ofTree?_eq_none_iff, Bool.not_eq_false]
  refine ⟨hiff, fun diagnostic hdiagnostic => ?_⟩
  have hfault : tree.hasFault = true := hiff.1 (by rw [hdiagnostic]; rfl)
  have hexists : ∃ leaf found, Diagnostic.ofTree? source tree = some found ∧
      grammar.PointsAt source symbol tree leaf found := by
    cases hends with
    | failed hroot =>
      obtain ⟨fault, hroot⟩ := Option.ne_none_iff_exists'.1 hroot
      exact exists_pointsAt_of_fails (hfails fault hroot) hcovers
        (hmatch.kinds (Table.mem_names_of_contains hsymbol) hbegin) hmatch.symbol_eq hsymbol
    | whole hroot _ _ =>
      -- The root is only extended, so there is no fault.
      rw [Tree.hasFault_withStop, hclean hroot] at hfault
      cases hfault
    | left hroot _ _ => exact exists_pointsAt_leave (hclean hroot) nofun hcovers
    | unclosed hroot _ => exact exists_pointsAt_leave (hclean hroot) nofun hcovers
  obtain ⟨leaf, found, hfound, hpoints⟩ := hexists
  obtain rfl := Option.some.inj (hfound.symm.trans hdiagnostic)
  exact ⟨leaf, hpoints⟩

end

/-- The rules of pairs of keys. -/
def keyPairRules : Rules where
  entries := [("Key", [⟨["k"]⟩, ⟨["l"]⟩]), ("Pair", [⟨["Key", "=", "Key"]⟩])]
  ordered := by decide
  named := by simp

/-- **Pairs of keys**, without comments. -/
def keyPairs : Grammar where
  rules := keyPairRules
  start := none
  comments := []
  table := (Table.ofRules keyPairRules).toOption.getD ⟨#[]⟩
  start_mem := nofun
  table_eq := by cbv

/-- The tree of a pair whose second key, in the second line, is none. -/
def brokenPair : Tree :=
  ⟨"Pair", 0, 6, [⟨"Key", 0, 1, [⟨"k", 0, 1, [], none⟩], none⟩, ⟨"=", 2, 3, [], none⟩,
    ⟨"Key", 6, 6, [.failed "k" 6 .noMatch], some .noMatch⟩], some .noMatch⟩

/-- The diagnostic of that tree. -/
def pairDiagnostic : Diagnostic :=
  ⟨.noMatch, "k", 2, ⟨6, 0, "expected `k`"⟩, some "no alternative of `Key` matches here"⟩

theorem diagnostic_points_at_failure_brokenPair :
    keyPairs.parse "k =\u00a0\nz" "Pair" = .ok brokenPair ∧
      Diagnostic.ofTree? "k =\u00a0\nz" brokenPair = some pairDiagnostic ∧
      ∃ leaf, keyPairs.PointsAt "k =\u00a0\nz" "Pair" brokenPair leaf pairDiagnostic := by
  have hparse : keyPairs.parse "k =\u00a0\nz" "Pair" = .ok brokenPair := by cbv
  have hdiagnostic : Diagnostic.ofTree? "k =\u00a0\nz" brokenPair = some pairDiagnostic := by cbv
  exact ⟨hparse, hdiagnostic, (diagnostic_points_at_failure hparse).2 _ hdiagnostic⟩

end Grammar

end OrderedChoice
