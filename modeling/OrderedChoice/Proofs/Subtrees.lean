import OrderedChoice.Proofs.Derivation
import OrderedChoice.Proofs.LeadingText

/-!
# Every subtree is a parse

A node of a tree was made by matching its symbol, in some attempt of the node above it, at a place
from which skipping led to where the node begins. None of this shows: matching the symbol at the
beginning of the node gives the same node again, because skipping does not lead further from where
it has ended. And since matching does not look behind, it gives that node also if the text begins
there.

* `Grammar.Matches.of_mem_nodes`: every node of a run is what matching its symbol gives at the place
  where the node begins.
* `Grammar.exists_parse_of_matches`: what matches at a place of a text is parsed in the text from
  that place on.
* `Grammar.subtree_is_parse`: so every node below the root of a parse is a parse of its own, up to
  how a parse ends.
-/

namespace OrderedChoice.Grammar

section

variable [PatternEngine] {grammar : Grammar} {text : List Char}

/-! ### Matching again -/

/-- A node begins where the skipping in front of it has ended, whether it has matched or not. -/
theorem Matches.start_eq {name : String} {p next : Place} {tree : Tree}
    (h : grammar.Matches name p tree next) :
    tree.start = (skipEnd (skip grammar.comments p)).offset := by
  refine h.node_induction
    (motive := fun _ p tree _ => tree.start = (skipEnd (skip grammar.comments p)).offset)
    ?unterminated ?matched ?unmatched ?barren ?spelled
  case unterminated =>
    intro name p opening hskip
    rw [hskip]
    rfl
  case matched =>
    intro name p q pattern n hskip _ _ _
    rw [hskip]
    rfl
  case unmatched =>
    intro name p q pattern hskip _ _ _
    rw [hskip]
    rfl
  case barren =>
    intro name p q hskip _
    rw [hskip]
    rfl
  case spelled =>
    intro name p q expansions expansion attempt hskip _ _ _
    rw [hskip]
    rfl

/-- **A node can be matched again** where it begins. -/
theorem Matches.at_start {name : String} {p next : Place} {tree : Tree}
    (h : grammar.Matches name p tree next) (hp : p.At text) :
    Text.IsBoundary text tree.start ∧
      grammar.Matches name (.ofOffset text tree.start) tree next := by
  have hend : (skipEnd (skip grammar.comments p)).At text :=
    hp.of_le (le_skipEnd grammar.comments p)
  rw [h.start_eq, ← hend.eq_ofOffset]
  -- Skipping from its end has the outcome that it had, be it an error or not.
  have hskip := skip_skipEnd grammar.comments p
  exact ⟨hend.isBoundary, (matches_iff_of_skip_eq hskip name tree next).2 h⟩

/-- **A node is reproduced**: it is what matching its symbol gives where it begins. -/
def Reproduced (grammar : Grammar) (text : List Char) (node : Tree) : Prop :=
  Text.IsBoundary text node.start ∧
    ∃ next, grammar.Matches node.symbol (.ofOffset text node.start) node next

theorem Matches.reproduced {name : String} {p next : Place} {tree : Tree}
    (h : grammar.Matches name p tree next) (hp : p.At text) : grammar.Reproduced text tree := by
  obtain ⟨hstart, hmatch⟩ := h.at_start hp
  refine ⟨hstart, next, ?_⟩
  rwa [h.symbol_eq]

/-- What a run in a text says about the nodes below its own: each of them is reproduced. -/
def BelowAreReproduced (grammar : Grammar) (text : List Char) (p : Place) (tree : Tree) : Prop :=
  p.At text → ∀ child ∈ tree.children, ∀ node ∈ child.nodes, grammar.Reproduced text node

/-- **Every node below the one of a run is reproduced.** -/
theorem Matches.below {name : String} {p next : Place} {tree : Tree}
    (h : grammar.Matches name p tree next) : grammar.BelowAreReproduced text p tree := by
  refine h.node_induction (motive := fun _ p tree _ => grammar.BelowAreReproduced text p tree)
    ?unterminated ?matched ?unmatched ?barren ?spelled
  case unterminated =>
    intro name p opening _ _ child hchild
    cases hchild
  case matched =>
    intro name p q pattern n _ _ _ _ _ child hchild
    cases hchild
  case unmatched =>
    intro name p q pattern _ _ _ _ _ child hchild
    cases hchild
  case barren =>
    intro name p q _ _ _ child hchild
    cases hchild
  case spelled =>
    intro name p q expansions expansion attempt hskip hget hmem hspells hp child hchild node hnode
    have hq : q.At text := hp.of_le (le_of_skip_ok hskip)
    -- The child is the node of a run of its own, and the hypothesis is about what is below it.
    obtain ⟨part, r, next, -, hr, hmatch, hbelow⟩ :=
      exists_reading_of_child
        (motive := fun name p tree next =>
          grammar.Matches name p tree next ∧ grammar.BelowAreReproduced text p tree)
        hget hmem (hspells.mono fun _ _ _ _ hread => ⟨hread.1, hread⟩) hq hchild
    rcases Tree.mem_nodes.1 hnode with rfl | ⟨below, hchild, hnode⟩
    · exact hmatch.reproduced hr
    · exact hbelow hr below hchild node hnode

/-- **Every node of a run is what matching its symbol gives** where it begins. -/
theorem Matches.of_mem_nodes {name : String} {p next : Place} {tree node : Tree}
    (h : grammar.Matches name p tree next) (hp : p.At text) (hnode : node ∈ tree.nodes) :
    grammar.Reproduced text node := by
  rcases Tree.mem_nodes.1 hnode with rfl | ⟨child, hchild, hnode⟩
  · exact h.reproduced hp
  · exact h.below hp child hchild node hnode

/-! ### Parsing from a place on -/

/-- **What matches at an offset of a text is parsed in the text from there on**, with all offsets
less by that one. -/
theorem exists_parse_of_matches {name : String} {offset : Nat} {node : Tree} {next : Place}
    (hname : grammar.isNonterminal name = true)
    (h : grammar.Matches name (.ofOffset text offset) node next) :
    ∃ whole, grammar.parse (String.ofList (Text.dropBytes offset text)) name = .ok whole ∧
      whole.shift offset = grammar.treeOf name node next := by
  -- The place at the offset is the beginning of the text behind it, moved by the offset.
  have hplace : Place.ofOffset text offset =
      (Place.begin (Text.dropBytes offset text)).shift offset := by
    rw [Place.ofOffset, Place.shift, Place.begin, Nat.zero_add]
  rw [hplace] at h
  have hcarry := homomorphism_id grammar
  obtain ⟨root, place, hmatch, rfl, rfl⟩ := (hcarry.matches_iff trivial).1 h
  refine ⟨grammar.treeOf name root place, parse_eq_ok_iff.2 ⟨hname, root, place, ?_, rfl⟩, ?_⟩
  · rwa [String.toList_ofList]
  · exact (hcarry.treeOf_carry offset name root place).symm

/-- However a parse ends, below its root are the nodes that are below the node of its symbol, and
perhaps one without a name. -/
theorem Ends.mem_children {symbol : String} {root tree child : Tree} {place : Place}
    (h : Ends grammar symbol root place tree) (hchild : child ∈ tree.children) :
    child ∈ root.children ∨ ∃ stop fault, child = .failed "" stop fault := by
  cases h with
  | failed _ => exact .inl hchild
  | whole _ _ _ => exact .inl hchild
  | left _ _ _ =>
    rcases List.mem_append.1 hchild with hchild | hchild
    · exact .inl hchild
    · exact .inr ⟨_, _, List.mem_singleton.1 hchild⟩
  | unclosed _ _ =>
    rcases List.mem_append.1 hchild with hchild | hchild
    · exact .inl hchild
    · exact .inr ⟨_, _, List.mem_singleton.1 hchild⟩

/-- A nonterminal has a name. -/
theorem ne_empty_of_isNonterminal {name : String} (h : grammar.isNonterminal name = true) :
    name ≠ "" := by
  obtain ⟨expansions, hget⟩ := Option.isSome_iff_exists.1 h
  exact grammar.rules.named _ (Rules.get?_eq_some_iff.1 hget)

/-- A node that is finished ends where the skipping behind it does, and has one more child at
most, which has no name. -/
theorem finish_eq_extended (grammar : Grammar) (symbol : String) (root : Tree) (place : Place) :
    ∃ trailing : Option Tree, (∀ child ∈ trailing, child.symbol = "") ∧
      grammar.finish symbol root place =
        { root with
          stop := (skipEnd (skip grammar.comments place)).offset
          children := root.children ++ trailing.toList } := by
  rw [finish]
  cases skip grammar.comments place with
  | error opening =>
    refine ⟨some (.failed "" opening.offset .unterminatedComment), fun child hchild => ?_, rfl⟩
    rw [← Option.some.inj hchild]
    rfl
  | ok next =>
    by_cases hrest : next.rest.isEmpty = true
    · refine ⟨none, fun child hchild => absurd hchild (Option.not_mem_none child), ?_⟩
      simp only [hrest, if_true, Option.toList_none, List.append_nil]
      rfl
    · refine ⟨some (.failed "" next.offset (.unparsableAfter symbol)), fun child hchild => ?_, ?_⟩
      · rw [← Option.some.inj hchild]
        rfl
      · simp only [hrest, Bool.false_eq_true, if_false]
        rfl

/-- **Every subtree is what a parse gives at that place.** Let a node below the root of a parse have
the name of a nonterminal, and parse the text from where it begins as that nonterminal. This gives a
tree, and with all offsets moved back to where the node is, the tree is the node if the node has a
fault; otherwise it is the node as a parse finishes it: its root ends where the skipping behind the
node does, and has at most one more child, which has no name. -/
theorem subtree_is_parse {source symbol : String} {tree child node : Tree}
    (h : grammar.parse source symbol = .ok tree) (hchild : child ∈ tree.children)
    (hnode : node ∈ child.nodes) (hsymbol : grammar.isNonterminal node.symbol = true) :
    Text.IsBoundary source.toList node.start ∧
    ∃ whole,
      grammar.parse (String.ofList (Text.dropBytes node.start source.toList)) node.symbol =
        .ok whole ∧
      (node.fault ≠ none → whole.shift node.start = node) ∧
      (node.fault = none →
        whole.shift node.start =
          grammar.finish node.symbol node (.ofOffset source.toList node.stop) ∧
        ∃ trailing : Option Tree, (∀ last ∈ trailing, last.symbol = "") ∧
          whole.shift node.start =
            { node with
              stop := (skipEnd (skip grammar.comments (.ofOffset source.toList node.stop))).offset
              children := node.children ++ trailing.toList }) := by
  obtain ⟨root, place, hmatch, hends⟩ := exists_of_parse_eq_ok h
  have hbegin : (Place.begin source.toList).At source.toList := Place.at_begin source.toList
  have hreproduced : grammar.Reproduced source.toList node := by
    rcases hends.mem_children hchild with hbelow | ⟨stop, fault, rfl⟩
    · exact hmatch.of_mem_nodes hbegin (Tree.mem_nodes.2 (.inr ⟨child, hbelow, hnode⟩))
    · -- The child behind the root has no name, and no nonterminal is without one.
      rw [List.mem_singleton.1 hnode] at hsymbol
      exact absurd rfl (ne_empty_of_isNonterminal hsymbol)
  obtain ⟨hstart, next, hagain⟩ := hreproduced
  obtain ⟨whole, hparse, hwhole⟩ := exists_parse_of_matches hsymbol hagain
  refine ⟨hstart, whole, hparse, fun hfault => ?_, fun hfault => ?_⟩
  · rw [hwhole, treeOf, if_pos (Option.isSome_iff_ne_none.2 hfault)]
  · -- The node ends where matching it did.
    obtain ⟨hle, hstop⟩ := hagain.le
    have hnext : next.At source.toList := (Place.at_ofOffset hstart).of_le hle
    rw [hnext.eq_ofOffset, ← hstop, treeOf,
      if_neg (by rw [hfault]; exact Bool.false_ne_true)] at hwhole
    obtain ⟨trailing, hnameless, hfinish⟩ :=
      finish_eq_extended grammar node.symbol node (.ofOffset source.toList node.stop)
    exact ⟨hwhole, trailing, hnameless, hwhole.trans hfinish⟩

end

/-- The row inside of `brokenRow`, and the tree that the text from there on is parsed to. -/
theorem subtree_is_parse_brokenRow :
    rows.parse "a /*é*/ b z" "Row" = .ok brokenRow ∧
      ∃ child ∈ brokenRow.children, child.symbol = "Row" ∧ child.start = 9 ∧
        rows.isNonterminal child.symbol = true ∧
        ∃ whole, rows.parse "b z" "Row" = .ok whole ∧
          whole.shift 9 = rows.finish "Row" child (.ofOffset "a /*é*/ b z".toList 11) := by
  have hparse : rows.parse "a /*é*/ b z" "Row" = .ok brokenRow := by cbv
  have hchild : (⟨"Row", 9, 11, [⟨"Word", 9, 10, [⟨"b", 9, 10, [], none⟩], none⟩,
      ⟨"Row", 11, 11, [], none⟩], none⟩ : Tree) ∈ brokenRow.children :=
    List.mem_cons_of_mem _ List.mem_cons_self
  have hrest : String.ofList (Text.dropBytes 9 "a /*é*/ b z".toList) = "b z" := by cbv
  obtain ⟨-, whole, hwhole, -, hclean⟩ :=
    subtree_is_parse hparse hchild (Tree.self_mem_nodes _) rfl
  refine ⟨hparse, _, hchild, rfl, rfl, rfl, whole, ?_, (hclean rfl).1⟩
  rw [← hrest]
  exact hwhole

end OrderedChoice.Grammar
