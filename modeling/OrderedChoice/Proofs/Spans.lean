import OrderedChoice.Proofs.FailurePoint

/-!
# The parts of the text that nodes cover

Every node covers a part of the source text, and its children cover parts of that, one behind the
other. What lies between them, and in front of the first one, has been skipped; behind the last
one nothing has, so a node ends where its last child does.

* `Tree.Covers` is what is asked of a single node, and `Tree.Spanned` of all nodes of a tree.
* `Grammar.Matches.spanned`: a run gives a tree that is so.
* `Grammar.spans_nested`: and so does a parse, but for its root, which runs to the end of the text
  if there is no fault.
-/

namespace OrderedChoice

/-- A boundary lies in the text. -/
theorem Text.IsBoundary.le {text : List Char} {offset : Nat} (h : IsBoundary text offset) :
    offset ≤ byteLength text := by
  obtain ⟨before, after, rfl, rfl⟩ := h
  rw [byteLength_append]
  omega

namespace Tree

variable {text : List Char}

/-! ### Nodes and their children -/

/-- **A node covers a part of a text**, and its children parts of that. -/
structure Covers (text : List Char) (node : Tree) : Prop where
  /-- A node does not end before it begins. -/
  ordered : node.start ≤ node.stop
  /-- It ends within the text. -/
  bounded : node.stop ≤ Text.byteLength text
  /-- It does not begin inside a character, -/
  start_boundary : Text.IsBoundary text node.start
  /-- nor does it end in one. -/
  stop_boundary : Text.IsBoundary text node.stop
  /-- The children lie inside the node. -/
  nested : ∀ child ∈ node.children, node.start ≤ child.start ∧ child.stop ≤ node.stop
  /-- No child begins before the one in front of it has ended. -/
  apart : node.children.IsChain fun left right => left.stop ≤ right.start

/-- A node that has children ends where the last one does. -/
def EndsWithLast (node : Tree) : Prop :=
  ∀ last, node.children.getLast? = some last → node.stop = last.stop

/-- **Every node of a tree covers a part of a text** and ends where its last child does. -/
def Spanned (text : List Char) (tree : Tree) : Prop :=
  ∀ node ∈ tree.nodes, node.Covers text ∧ node.EndsWithLast

theorem spanned_iff {tree : Tree} :
    tree.Spanned text ↔ (tree.Covers text ∧ tree.EndsWithLast) ∧
      ∀ child ∈ tree.children, child.Spanned text := by
  constructor
  · intro h
    refine ⟨h tree (self_mem_nodes tree), fun child hchild node hnode => ?_⟩
    exact h node (mem_nodes.2 (.inr ⟨child, hchild, hnode⟩))
  · rintro ⟨htree, hchildren⟩ node hnode
    rcases mem_nodes.1 hnode with rfl | ⟨child, hchild, hnode⟩
    · exact htree
    · exact hchildren child hchild node hnode

/-- A node without children covers the text between two places. -/
theorem spanned_leaf {p q : Place} (hp : p.At text) (hle : p ≤ q) (symbol : String)
    (fault : Option Fault) : Spanned text ⟨symbol, p.offset, q.offset, [], fault⟩ := by
  have hq := (hp.of_le hle).isBoundary
  refine spanned_iff.2 ⟨⟨⟨Place.offset_le hle, hq.le, hp.isBoundary, hq, ?_, .nil⟩, nofun⟩, ?_⟩
  · exact fun child hchild => absurd hchild List.not_mem_nil
  · exact fun child hchild => absurd hchild List.not_mem_nil

theorem spanned_failed {p : Place} (hp : p.At text) (symbol : String) (fault : Fault) :
    (failed symbol p.offset fault).Spanned text :=
  spanned_leaf hp (le_refl p) symbol (some fault)

/-! ### Rows of trees -/

/-- **Trees in a row** from one offset to another. -/
structure Row (text : List Char) (start stop : Nat) (trees : List Tree) : Prop where
  /-- They lie between the two. -/
  inside : ∀ tree ∈ trees, start ≤ tree.start ∧ tree.stop ≤ stop
  /-- None begins before the one in front of it has ended. -/
  apart : trees.IsChain fun left right => left.stop ≤ right.start
  /-- The last one ends at the end of the row. -/
  last : ∀ tree, trees.getLast? = some tree → stop = tree.stop
  /-- Each of them covers a part of the text. -/
  spanned : ∀ tree ∈ trees, tree.Spanned text

theorem row_nil (start : Nat) : Row text start start [] where
  inside := fun _ htree => absurd htree List.not_mem_nil
  apart := .nil
  last := nofun
  spanned := fun _ htree => absurd htree List.not_mem_nil

/-- A tree in front of a row that begins behind it. -/
theorem Row.cons {start stop : Nat} {tree : Tree} {trees : List Tree}
    (h : Row text tree.stop stop trees) (hstop : trees = [] → tree.stop = stop)
    (hle : tree.stop ≤ stop) (hstart : start ≤ tree.start) (htree : tree.Spanned text) :
    Row text start stop (tree :: trees) := by
  have hordered := (spanned_iff.1 htree).1.1.ordered
  refine ⟨fun other hmem => ?_, ?_, fun other hlast => ?_, fun other hmem => ?_⟩
  · rcases List.mem_cons.1 hmem with rfl | hmem
    · exact ⟨hstart, hle⟩
    · have hinside := h.inside other hmem
      omega
  · refine List.isChain_cons.2 ⟨fun other hhead => ?_, h.apart⟩
    exact (h.inside other (List.mem_of_head? hhead)).1
  · -- The last tree is this one only if the row behind it is empty.
    cases trees with
    | nil =>
      rw [List.getLast?_singleton] at hlast
      rw [← Option.some.inj hlast, hstop rfl]
    | cons next rest =>
      rw [List.getLast?_cons_cons] at hlast
      exact h.last other hlast
  · rcases List.mem_cons.1 hmem with rfl | hmem
    · exact htree
    · exact h.spanned other hmem

/-- A tree behind a row. -/
theorem Row.concat {start stop : Nat} {tree : Tree} {trees : List Tree}
    (h : Row text start stop trees) (hstart : start ≤ tree.start) (hle : stop ≤ tree.start)
    (htree : tree.Spanned text) : Row text start tree.stop (trees ++ [tree]) := by
  have hordered := (spanned_iff.1 htree).1.1.ordered
  refine ⟨fun other hmem => ?_, ?_, fun other hlast => ?_, fun other hmem => ?_⟩
  · rcases List.mem_append.1 hmem with hmem | hmem
    · have hinside := h.inside other hmem
      omega
    · rw [List.mem_singleton.1 hmem]
      exact ⟨hstart, le_refl _⟩
  · refine List.isChain_append.2 ⟨h.apart, .singleton _, fun left hleft right hright => ?_⟩
    -- The two meet where the row ended.
    rw [List.head?_cons] at hright
    rw [← Option.some.inj hright, ← h.last left hleft]
    exact hle
  · rw [List.getLast?_concat] at hlast
    rw [Option.some.inj hlast]
  · rcases List.mem_append.1 hmem with hmem | hmem
    · exact h.spanned other hmem
    · rw [List.mem_singleton.1 hmem]
      exact htree

/-- The children of a node are in a row. -/
theorem Spanned.row {tree : Tree} (h : tree.Spanned text) :
    Row text tree.start tree.stop tree.children := by
  obtain ⟨⟨hcovers, hlast⟩, hchildren⟩ := spanned_iff.1 h
  exact ⟨hcovers.nested, hcovers.apart, hlast, hchildren⟩

/-- **A node over a row**, which may end behind it. -/
theorem Row.covers {start stop reached : Nat} {trees : List Tree}
    (h : Row text start reached trees) (hstart : Text.IsBoundary text start)
    (hstop : Text.IsBoundary text stop) (hordered : start ≤ stop) (hle : reached ≤ stop)
    (symbol : String) (fault : Option Fault) : Covers text ⟨symbol, start, stop, trees, fault⟩ where
  ordered := hordered
  bounded := hstop.le
  start_boundary := hstart
  stop_boundary := hstop
  nested := fun child hchild =>
    ⟨(h.inside child hchild).1, (h.inside child hchild).2.trans hle⟩
  apart := h.apart

/-- A node over a row that ends with the row. -/
theorem Row.spanned_node {start stop : Nat} {trees : List Tree} (h : Row text start stop trees)
    (hstart : Text.IsBoundary text start) (hstop : Text.IsBoundary text stop)
    (hordered : start ≤ stop) (symbol : String) (fault : Option Fault) :
    Spanned text ⟨symbol, start, stop, trees, fault⟩ :=
  spanned_iff.2 ⟨⟨h.covers hstart hstop hordered (le_refl _) symbol fault, h.last⟩, h.spanned⟩

end Tree

namespace Grammar

variable [PatternEngine] {grammar : Grammar} {text : List Char}

/-! ### Runs -/

/-- What a run in a text says about spans: its tree is spanned and begins behind the place where
the run does. -/
def SpansAreRight (text : List Char) (p : Place) (tree : Tree) : Prop :=
  p.At text → tree.Spanned text ∧ p.offset ≤ tree.start

/-- The children of an attempt are in a row. -/
theorem row_of_spells {names : List String} {p : Place} {attempt : Attempt}
    (h : Spells (fun name p tree next => grammar.Matches name p tree next ∧
      SpansAreRight text p tree) names p attempt) (hp : p.At text) :
    p ≤ attempt.place ∧ Tree.Row text p.offset attempt.place.offset attempt.children := by
  induction h with
  | nil p => exact ⟨le_refl p, Tree.row_nil p.offset⟩
  | @fail name p next child fault names hchild hfault =>
    obtain ⟨hspanned, hstart⟩ := hchild.2 hp
    obtain ⟨hle, hstop⟩ := hchild.1.le
    have hrow := (Tree.row_nil child.stop).cons (fun _ => rfl) (le_refl _) hstart hspanned
    rw [hstop] at hrow
    exact ⟨hle, hrow⟩
  | @cons name names p next child attempt hchild hfault hspells ih =>
    obtain ⟨hspanned, hstart⟩ := hchild.2 hp
    obtain ⟨hle, hstop⟩ := hchild.1.le
    -- The row behind the first child begins where that child ends.
    obtain ⟨hle', hrow⟩ := ih (hp.of_le hle)
    rw [← hstop] at hrow
    refine ⟨hle.trans hle', hrow.cons (fun hnil => ?_) ?_ hstart hspanned⟩
    · rw [hstop, (hspells.of_children_nil hnil).1]
    · rw [hstop]
      exact Place.offset_le hle'

/-- **Every run is right about spans.** -/
theorem Matches.spanned {name : String} {p next : Place} {tree : Tree}
    (h : grammar.Matches name p tree next) : SpansAreRight text p tree := by
  refine h.node_induction (motive := fun _ p tree _ => SpansAreRight text p tree)
    ?unterminated ?matched ?unmatched ?barren ?spelled
  case unterminated =>
    intro name p opening hskip hp
    have hle := le_of_skip_error hskip
    exact ⟨Tree.spanned_failed (hp.of_le hle) _ _, Place.offset_le hle⟩
  case matched =>
    intro name p q pattern n hskip _ _ _ hp
    have hle := le_of_skip_ok hskip
    exact ⟨Tree.spanned_leaf (hp.of_le hle) (q.advance_le n) name none, Place.offset_le hle⟩
  case unmatched =>
    intro name p q pattern hskip _ _ _ hp
    have hle := le_of_skip_ok hskip
    exact ⟨Tree.spanned_failed (hp.of_le hle) _ _, Place.offset_le hle⟩
  case barren =>
    intro name p q hskip _ hp
    have hle := le_of_skip_ok hskip
    exact ⟨Tree.spanned_failed (hp.of_le hle) _ _, Place.offset_le hle⟩
  case spelled =>
    intro name p q expansions expansion attempt hskip _ _ hspells hp
    have hle := le_of_skip_ok hskip
    have hq := hp.of_le hle
    obtain ⟨hle', hrow⟩ := row_of_spells hspells hq
    have hnode := hrow.spanned_node hq.isBoundary (hq.of_le hle').isBoundary
      (Place.offset_le hle') name attempt.fault
    exact ⟨hnode, Place.offset_le hle⟩

end Grammar

/-! ### Parses -/

/-- **The spans of a tree are nested**, and its root runs to the end of the text if there is no
fault. -/
structure Tree.SpansNested (text : List Char) (tree : Tree) : Prop where
  /-- Each node covers a part of the text. -/
  covers : ∀ node ∈ tree.nodes, node.Covers text
  /-- A node below the root ends where its last child does. -/
  below : ∀ child ∈ tree.children, ∀ node ∈ child.nodes, node.EndsWithLast
  /-- With a fault anywhere, so does the root. -/
  failed : tree.hasFault = true → tree.EndsWithLast
  /-- Without one, the root ends where the text does. -/
  whole : tree.hasFault = false → tree.stop = Text.byteLength text

namespace Tree.Spanned

variable {text : List Char} {root : Tree}

/-- A tree with a fault makes no exception for its root. -/
theorem nested_of_hasFault (h : root.Spanned text) (hfault : root.hasFault = true) :
    root.SpansNested text where
  covers := fun node hnode => (h node hnode).1
  below := fun child hchild node hnode => ((spanned_iff.1 h).2 child hchild node hnode).2
  failed := fun _ => (spanned_iff.1 h).1.2
  whole := fun hnone => absurd (hnone.symm.trans hfault) Bool.false_ne_true

/-- The root of a tree without a fault, extended to the end of the text. -/
theorem nested_withStop (h : root.Spanned text) (hfault : root.hasFault = false) {stop : Nat}
    (hstop : stop = Text.byteLength text) :
    ({ root with stop := stop } : Tree).SpansNested text := by
  obtain ⟨⟨hcovers, -⟩, hchildren⟩ := spanned_iff.1 h
  have hbounded : root.stop ≤ stop := hstop ▸ hcovers.bounded
  have hboundary : Text.IsBoundary text stop := hstop ▸ Text.isBoundary_byteLength text
  refine ⟨fun node hnode => ?_, fun child hchild node hnode => ?_, fun hsome => ?_, fun _ => hstop⟩
  · -- Only the root has changed: it covers more behind its children.
    rcases mem_nodes.1 hnode with rfl | ⟨child, hchild, hnode⟩
    · exact h.row.covers hcovers.start_boundary hboundary (hcovers.ordered.trans hbounded) hbounded
        root.symbol root.fault
    · exact (hchildren child hchild node hnode).1
  · exact (hchildren child hchild node hnode).2
  · rw [hasFault_withStop, hfault] at hsome
    cases hsome

/-- A root with a failure behind it. -/
theorem nested_leave (h : root.Spanned text) {place : Place} (hplace : place.At text)
    (hle : root.stop ≤ place.offset) (fault : Fault) :
    (Grammar.finish.leave root place fault).SpansNested text := by
  have hcovers := (spanned_iff.1 h).1.1
  have hordered : root.start ≤ place.offset := hcovers.ordered.trans hle
  have hrow := h.row.concat hordered hle (spanned_failed hplace "" fault)
  have hspanned := hrow.spanned_node hcovers.start_boundary hplace.isBoundary hordered root.symbol
    root.fault
  exact nested_of_hasFault hspanned (Grammar.hasFault_leave root place fault)

end Tree.Spanned

namespace Grammar

section

variable [PatternEngine]

/-- However a parse ends, the spans are nested. -/
theorem Ends.spansNested {grammar : Grammar} {text : List Char} {symbol : String}
    {root tree : Tree} {p place : Place} (h : Ends grammar symbol root place tree)
    (hmatch : grammar.Matches symbol p root place) (hp : p.At text) : tree.SpansNested text := by
  obtain ⟨hle, hstop⟩ := hmatch.le
  have hplace : place.At text := hp.of_le hle
  have hroot : root.Spanned text := (hmatch.spanned hp).1
  -- The root ends where the skipping behind it begins.
  have hbehind : ∀ {next}, place ≤ next → root.stop ≤ next.offset ∧ next.At text :=
    fun hnext => ⟨hstop ▸ Place.offset_le hnext, hplace.of_le hnext⟩
  cases h with
  | failed hfault => exact hroot.nested_of_hasFault (Tree.hasFault_of_fault hfault)
  | whole hfault hskip hrest =>
    have hnext := (hbehind (le_of_skip_ok hskip)).2
    exact hroot.nested_withStop (hmatch.fails.1 hfault) (hnext.offset_of_rest_nil hrest)
  | left _ hskip _ =>
    obtain ⟨hbefore, hnext⟩ := hbehind (le_of_skip_ok hskip)
    exact hroot.nested_leave hnext hbefore _
  | unclosed _ hskip =>
    obtain ⟨hbefore, hopening⟩ := hbehind (le_of_skip_error hskip)
    exact hroot.nested_leave hopening hbefore _

/-- **The spans of a parse are nested.** -/
theorem spans_nested {grammar : Grammar} {source symbol : String} {tree : Tree}
    (h : grammar.parse source symbol = .ok tree) : tree.SpansNested source.toList := by
  obtain ⟨root, place, hmatch, hends⟩ := exists_of_parse_eq_ok h
  exact hends.spansNested hmatch (Place.at_begin source.toList)

end

/-- A word that ends in front of a comment, in a text that ends behind it. -/
def commentedWord : Tree := ⟨"Word", 0, 8, [⟨"a", 0, 1, [], none⟩], none⟩

theorem spans_nested_commentedWord :
    rows.parse "a /*é*/" "Word" = .ok commentedWord ∧
      commentedWord.SpansNested "a /*é*/".toList := by
  have hparse : rows.parse "a /*é*/" "Word" = .ok commentedWord := by cbv
  exact ⟨hparse, spans_nested hparse⟩

end Grammar

end OrderedChoice
