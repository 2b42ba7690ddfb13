import Mathlib.Computability.ContextFreeGrammar
import OrderedChoice.Proofs.Recognition

/-!
# Trees are derivations

A tree spells out the rules of its grammar, as far as the text went along with them. Each node is
of one of four kinds: a terminal that has matched, a nonterminal whose children spell one of its
expansions, a nonterminal whose children spell the beginning of one and then fail, or a leaf at
which matching stopped. Only the child that reports what is left over behind the root is none of
the four, and `Tree.withoutTrailing` sets it aside.

* `Grammar.IsA` states the four kinds; `Grammar.IsA.unique` says that no node is of two of them.
* `Grammar.Matches.kinds`: every node of a run is of one of the kinds.
* `Grammar.derives_of_kinds`: without a fault, the terminals at the leaves are a word that the
  rules derive, when they are read as a context-free grammar.
* `Grammar.tree_is_derivation`: so it is for every parse.
-/

namespace ContextFreeGrammar

/-- A symbol of a context-free grammar whose terminals and nonterminals are names. -/
abbrev NamedSymbol := Symbol String String

end ContextFreeGrammar

namespace OrderedChoice

/-! ### The children of an attempt -/

/-- The node of a symbol has its name. -/
def Named (R : Reading) : Prop := ∀ name p tree next, R name p tree next → tree.symbol = name

/-- The children of an attempt that has not failed spell its symbols. -/
theorem Spells.symbols_eq {R : Reading} (hR : Named R) {names : List String} {p : Place}
    {attempt : Attempt} (h : Spells R names p attempt) (hfault : attempt.fault = none) :
    attempt.children.map (·.symbol) = names ∧ ∀ child ∈ attempt.children, child.fault = none := by
  induction h with
  | nil p => exact ⟨rfl, fun child hchild => absurd hchild List.not_mem_nil⟩
  | fail names _ _ => cases hfault
  | cons hread hclean _ ih =>
    obtain ⟨hsymbols, hrest⟩ := ih hfault
    refine ⟨?_, fun child hchild => ?_⟩
    · rw [List.map_cons, hsymbols, hR _ _ _ _ hread]
    · rcases List.mem_cons.1 hchild with rfl | hchild
      · exact hclean
      · exact hrest child hchild

/-- The children of an attempt that has failed spell the beginning of its symbols, and the last of
them has the fault. -/
theorem Spells.symbols_prefix {R : Reading} (hR : Named R) {names : List String} {p : Place}
    {attempt : Attempt} {fault : Fault} (h : Spells R names p attempt)
    (hfault : attempt.fault = some fault) :
    attempt.children.map (·.symbol) <+: names ∧ ∃ before last,
      attempt.children = before ++ [last] ∧ (∀ child ∈ before, child.fault = none) ∧
        last.fault = some fault := by
  induction h with
  | nil p => cases hfault
  | @fail name p next child fault' names hread hchild =>
    -- The symbol that failed is the last one that was tried.
    obtain rfl := Option.some.inj hfault
    refine ⟨?_, [], child, rfl, fun other hother => absurd hother List.not_mem_nil, hchild⟩
    rw [List.map_singleton, hR _ _ _ _ hread]
    exact ⟨names, rfl⟩
  | @cons name names p next child attempt hread hclean _ ih =>
    obtain ⟨hsymbols, before, last, hchildren, hbefore, hlast⟩ := ih hfault
    refine ⟨?_, child :: before, last, ?_, fun other hother => ?_, hlast⟩
    · rw [List.map_cons, hR _ _ _ _ hread]
      exact List.cons_prefix_cons.2 ⟨rfl, hsymbols⟩
    · rw [hchildren, List.cons_append]
    · rcases List.mem_cons.1 hother with rfl | hother
      · exact hclean
      · exact hbefore other hother

/-! ### Kinds of nodes -/

/-- **Kinds of nodes** of a tree. -/
inductive NodeKind where
  /-- A terminal that has matched. -/
  | word
  /-- A nonterminal that has matched. -/
  | phrase
  /-- A nonterminal of which a child has failed. -/
  | fragment
  /-- A leaf at which matching stopped. -/
  | halt
  deriving DecidableEq

namespace Grammar

variable [PatternEngine]

/-- **A node is of a kind.** -/
def IsA (grammar : Grammar) (text : List Char) (node : Tree) : NodeKind → Prop
  | .word => node.fault = none ∧ node.children = [] ∧ ∃ pattern n,
      grammar.Compiles node.symbol pattern ∧
      pattern.matchBytes? (Text.dropBytes node.start text) = some n ∧ node.stop = node.start + n
  | .phrase => node.fault = none ∧ ∃ expansions expansion,
      grammar.rules.get? node.symbol = some expansions ∧ expansion ∈ expansions ∧
      node.children.map (·.symbol) = expansion.symbols ∧
      ∀ child ∈ node.children, child.fault = none
  | .fragment => ∃ fault expansions expansion before last, node.fault = some fault ∧
      grammar.rules.get? node.symbol = some expansions ∧ expansion ∈ expansions ∧
      node.children.map (·.symbol) <+: expansion.symbols ∧ node.children = before ++ [last] ∧
      (∀ child ∈ before, child.fault = none) ∧ last.fault = some fault
  | .halt => node.children = [] ∧ node.start = node.stop ∧
      (node.fault = some .unterminatedComment ∨ node.fault = some .noMatch ∧
        ((∃ pattern, grammar.Compiles node.symbol pattern) ∨
          grammar.rules.get? node.symbol = some []))

variable {grammar : Grammar} {text : List Char}

/-- Whether a node has a fault tells two of the kinds from the other two. -/
theorem IsA.fault_eq_none_iff {node : Tree} {kind : NodeKind} (h : grammar.IsA text node kind) :
    node.fault = none ↔ kind = .word ∨ kind = .phrase := by
  cases kind with
  | word => simp only [h.1, true_or]
  | phrase => simp only [h.1, or_true]
  | fragment =>
    obtain ⟨fault, -, -, -, -, hfault, -⟩ := h
    simp only [hfault, reduceCtorEq, or_self]
  | halt =>
    obtain ⟨-, -, hfault | ⟨hfault, -⟩⟩ := h
    · simp only [hfault, reduceCtorEq, or_self]
    · simp only [hfault, reduceCtorEq, or_self]

theorem IsA.fault_ne_none_iff {node : Tree} {kind : NodeKind} (h : grammar.IsA text node kind) :
    node.fault ≠ none ↔ kind = .fragment ∨ kind = .halt := by
  rw [Ne, h.fault_eq_none_iff]
  cases kind <;> decide

/-- **No node is of two kinds.** -/
theorem IsA.unique {node : Tree} {kind kind' : NodeKind} (h : grammar.IsA text node kind)
    (h' : grammar.IsA text node kind') : kind = kind' := by
  -- A word has no rules, and a phrase has.
  have hword : grammar.IsA text node .word → ¬ grammar.IsA text node .phrase := by
    rintro ⟨-, -, pattern, n, hcompiles, -⟩ ⟨-, expansions, expansion, hget, -⟩
    rw [hcompiles.get?_eq_none] at hget
    cases hget
  -- A fragment has a child, and a halt has none.
  have hhalt : grammar.IsA text node .halt → ¬ grammar.IsA text node .fragment := by
    rintro ⟨hnil, -⟩ ⟨fault, expansions, expansion, before, last, -, -, -, -, hchildren, -⟩
    rw [hnil] at hchildren
    exact List.append_ne_nil_of_right_ne_nil _ (List.cons_ne_nil _ _) hchildren.symm
  -- Of the four kinds two are left on either side, once it is known whether there is a fault.
  by_cases hfault : node.fault = none
  · rcases h.fault_eq_none_iff.1 hfault with rfl | rfl
    · rcases h'.fault_eq_none_iff.1 hfault with rfl | rfl
      · rfl
      · exact absurd h' (hword h)
    · rcases h'.fault_eq_none_iff.1 hfault with rfl | rfl
      · exact absurd h (hword h')
      · rfl
  · rcases h.fault_ne_none_iff.1 hfault with rfl | rfl
    · rcases h'.fault_ne_none_iff.1 hfault with rfl | rfl
      · rfl
      · exact absurd h (hhalt h')
    · rcases h'.fault_ne_none_iff.1 hfault with rfl | rfl
      · exact absurd h' (hhalt h)
      · rfl

/-! ### Runs -/

theorem Matches.symbol_eq {name : String} {p next : Place} {tree : Tree}
    (h : grammar.Matches name p tree next) : tree.symbol = name := by
  refine h.node_induction (motive := fun name _ tree _ => tree.symbol = name) ?_ ?_ ?_ ?_ ?_
  all_goals intros; rfl

theorem named_matches (grammar : Grammar) : Named grammar.Matches :=
  fun _ _ _ _ h => h.symbol_eq

/-- What a run in a text says about kinds: every node is of one of them. -/
def KindsAreRight (grammar : Grammar) (text : List Char) (name : String) (p : Place)
    (tree : Tree) : Prop :=
  name ∈ Table.names grammar.rules → p.At text → ∀ node ∈ tree.nodes, ∃ kind,
    grammar.IsA text node kind

/-- A leaf is the only node of its tree. -/
theorem kinds_of_children_nil (kind : NodeKind) {tree : Tree} (hchildren : tree.children = [])
    (h : grammar.IsA text tree kind) : ∀ node ∈ tree.nodes, ∃ kind,
      grammar.IsA text node kind := by
  intro node hnode
  rcases Tree.mem_nodes.1 hnode with rfl | ⟨child, hchild, -⟩
  · exact ⟨kind, h⟩
  · rw [hchildren] at hchild
    exact absurd hchild List.not_mem_nil

/-- The node of an attempt is a phrase or a fragment. -/
theorem isA_of_spells {name : String} {expansions : List Expansion} {expansion : Expansion}
    {q : Place} {attempt : Attempt} (hget : grammar.rules.get? name = some expansions)
    (hmem : expansion ∈ expansions) (h : Spells grammar.Matches expansion.symbols q attempt) :
    ∃ kind, grammar.IsA text
      ⟨name, q.offset, attempt.place.offset, attempt.children, attempt.fault⟩ kind := by
  cases hfault : attempt.fault with
  | none =>
    obtain ⟨hsymbols, hclean⟩ := h.symbols_eq (named_matches grammar) hfault
    exact ⟨.phrase, rfl, expansions, expansion, hget, hmem, hsymbols, hclean⟩
  | some fault =>
    obtain ⟨hsymbols, before, last, hchildren, hclean, hlast⟩ :=
      h.symbols_prefix (named_matches grammar) hfault
    exact ⟨.fragment, fault, expansions, expansion, before, last, rfl, hget, hmem, hsymbols,
      hchildren, hclean, hlast⟩

/-- **Every node of a run is of one of the kinds.** -/
theorem Matches.kinds {name : String} {p next : Place} {tree : Tree}
    (h : grammar.Matches name p tree next) : grammar.KindsAreRight text name p tree := by
  refine h.node_induction (motive := fun name p tree _ => grammar.KindsAreRight text name p tree)
    ?unterminated ?matched ?unmatched ?barren ?spelled
  case unterminated =>
    intro name p opening _ _ _
    exact kinds_of_children_nil .halt rfl ⟨rfl, rfl, .inl rfl⟩
  case matched =>
    intro name p q pattern n hskip hget hpattern hlength hname hp
    have hcompiles := (compiles_iff hname).2 ⟨hget, hpattern⟩
    -- The pattern was tried on the rest of the place, which is the text behind the offset.
    have hq : Text.dropBytes q.offset text = q.rest := (hp.of_le (le_of_skip_ok hskip)).dropBytes
    refine kinds_of_children_nil .word rfl ⟨rfl, rfl, pattern, _, hcompiles, ?_, rfl⟩
    rw [hq, Pattern.matchBytes?, hlength, Option.map_some]
  case unmatched =>
    intro name p q pattern _ hget hpattern _ hname _
    have hcompiles := (compiles_iff hname).2 ⟨hget, hpattern⟩
    exact kinds_of_children_nil .halt rfl
      ⟨rfl, rfl, .inr ⟨rfl, .inl ⟨pattern, hcompiles⟩⟩⟩
  case barren =>
    intro name p q _ hget _ _
    exact kinds_of_children_nil .halt rfl ⟨rfl, rfl, .inr ⟨rfl, .inr hget⟩⟩
  case spelled =>
    intro name p q expansions expansion attempt hskip hget hmem hspells _ hp node hnode
    have hq : q.At text := hp.of_le (le_of_skip_ok hskip)
    rcases Tree.mem_nodes.1 hnode with rfl | ⟨child, hchild, hnode⟩
    · -- The hypothesis of the induction is dropped here: only what was matched counts.
      exact isA_of_spells hget hmem (hspells.mono fun _ _ _ _ hread => hread.1)
    · obtain ⟨part, r, next, hpart, hr, hkinds⟩ :=
        exists_reading_of_child (motive := fun name p tree _ => grammar.KindsAreRight text name p
          tree) hget hmem hspells hq hchild
      exact hkinds hpart hr node hnode

/-! ### Context-free rules -/

/-- The name of a symbol, as a symbol of a context-free grammar. -/
def contextFreeSymbol (grammar : Grammar) (name : String) : ContextFreeGrammar.NamedSymbol :=
  if grammar.isNonterminal name then .nonterminal name else .terminal name

/-- **The rules read as a context-free grammar**: the order of the expansions, comments and
patterns do not count. -/
abbrev contextFree (grammar : Grammar) (start : String) : ContextFreeGrammar String where
  NT := String
  initial := start
  rules := (grammar.rules.entries.flatMap fun entry =>
    entry.2.map fun expansion => ⟨entry.1, expansion.symbols.map grammar.contextFreeSymbol⟩).toFinset

/-- **Words of a tree**: the names at its leaves, without the nonterminals that are erased. -/
def words (grammar : Grammar) (tree : Tree) : List String :=
  (tree.leaves.map (·.symbol)).filter (!grammar.isNonterminal ·)

/-- A nonterminal produces each of its expansions. -/
theorem contextFree_produces (start : String) {name : String} {expansions : List Expansion}
    {expansion : Expansion} (hget : grammar.rules.get? name = some expansions)
    (hmem : expansion ∈ expansions) :
    (grammar.contextFree start).Produces [.nonterminal name]
      (expansion.symbols.map grammar.contextFreeSymbol) := by
  refine ⟨⟨name, expansion.symbols.map grammar.contextFreeSymbol⟩, ?_, .input_output⟩
  rw [List.mem_toFinset, List.mem_flatMap]
  exact ⟨(name, expansions), Rules.get?_eq_some_iff.1 hget, List.mem_map.2 ⟨expansion, hmem, rfl⟩⟩

/-- The words below a nonterminal are those of its children. -/
theorem words_of_get? {tree : Tree} {expansions : List Expansion}
    (hget : grammar.rules.get? tree.symbol = some expansions) :
    grammar.words tree = tree.children.flatMap grammar.words := by
  by_cases hchildren : tree.children = []
  · -- An erased nonterminal is a leaf, and counts as nothing.
    rw [words, Tree.leaves_of_children_nil hchildren, hchildren, List.map_singleton,
      List.filter_cons_of_neg, List.filter_nil, List.flatMap_nil]
    rw [isNonterminal_of_get? hget]
    exact Bool.false_ne_true
  · rw [words, Tree.leaves_of_children_ne_nil hchildren, List.map_flatMap, List.filter_flatMap]
    rfl

/-- Symbols one after another derive what each of them does. -/
theorem derives_flatMap (start : String) {trees : List Tree}
    (h : ∀ tree ∈ trees, (grammar.contextFree start).Derives [grammar.contextFreeSymbol tree.symbol]
      ((grammar.words tree).map .terminal)) :
    (grammar.contextFree start).Derives (trees.map fun tree => grammar.contextFreeSymbol tree.symbol)
      ((trees.flatMap grammar.words).map .terminal) := by
  induction trees with
  | nil => exact .refl _
  | cons tree trees ih =>
    have hfirst := h tree List.mem_cons_self
    have hrest := ih fun other hother => h other (List.mem_cons_of_mem tree hother)
    -- First the first symbol is derived, in front of the others, and then those behind its words.
    rw [List.map_cons, List.flatMap_cons, List.map_append, ← List.singleton_append]
    exact (hfirst.append_right _).trans (hrest.append_left _)

/-- **A tree without a fault derives its words** from its symbol. -/
theorem derives_of_kinds (start : String) {tree : Tree} (hfault : tree.hasFault = false)
    (h : ∀ node ∈ tree.nodes, ∃ kind, grammar.IsA text node kind) :
    (grammar.contextFree start).Derives [grammar.contextFreeSymbol tree.symbol]
      ((grammar.words tree).map .terminal) := by
  induction tree using Tree.induction with
  | node tree ih =>
    obtain ⟨hclean, hchildren⟩ := Tree.hasFault_eq_false.1 hfault
    obtain ⟨kind, hkind⟩ := h tree tree.self_mem_nodes
    rcases hkind.fault_eq_none_iff.1 hclean with rfl | rfl
    · -- A word stands for itself.
      obtain ⟨-, hnil, pattern, -, hcompiles, -⟩ := hkind
      have hterminal := hcompiles.isNonterminal_eq_false
      have hwords : grammar.words tree = [tree.symbol] := by
        rw [words, Tree.leaves_of_children_nil hnil, List.map_singleton,
          List.filter_cons_of_pos (by rw [hterminal]; rfl), List.filter_nil]
      rw [hwords, contextFreeSymbol, hterminal]
      exact .refl _
    · -- A phrase produces its expansion, and the children derive their words from there.
      obtain ⟨-, expansions, expansion, hget, hmem, hsymbols, -⟩ := hkind
      have hproduces := contextFree_produces start hget hmem
      have hforms : expansion.symbols.map grammar.contextFreeSymbol =
          tree.children.map fun child => grammar.contextFreeSymbol child.symbol := by
        rw [← hsymbols, List.map_map]
        rfl
      rw [hforms] at hproduces
      rw [words_of_get? hget, contextFreeSymbol, if_pos (isNonterminal_of_get? hget)]
      refine hproduces.trans_derives (derives_flatMap start fun child hchild => ?_)
      exact ih child hchild (hchildren child hchild) fun node hnode =>
        h node (Tree.mem_nodes.2 (.inr ⟨child, hchild, hnode⟩))

end Grammar

/-! ### Parses -/

/-- **The tree without what is left over**: if only something below the root has a fault, its last
child is set aside. -/
def Tree.withoutTrailing (tree : Tree) : Tree :=
  if tree.fault.isNone && tree.hasFault then { tree with children := tree.children.dropLast }
  else tree

theorem Tree.withoutTrailing_of_fault {tree : Tree} (h : tree.fault ≠ none) :
    tree.withoutTrailing = tree := by
  rw [withoutTrailing, if_neg]
  rw [Option.isNone_eq_false_iff.2 (Option.isSome_iff_ne_none.2 h), Bool.false_and]
  exact Bool.false_ne_true

theorem Tree.withoutTrailing_of_hasFault {tree : Tree} (h : tree.hasFault = false) :
    tree.withoutTrailing = tree := by
  rw [withoutTrailing, if_neg]
  rw [h, Bool.and_false]
  exact Bool.false_ne_true

namespace Grammar

/-- What was left over is what is set aside. -/
theorem withoutTrailing_leave {root : Tree} (hroot : root.fault = none) (place : Place)
    (fault : Fault) :
    (finish.leave root place fault).withoutTrailing = { root with stop := place.offset } := by
  have hcond : ((finish.leave root place fault).fault.isNone &&
      (finish.leave root place fault).hasFault) = true := by
    rw [hasFault_leave, Bool.and_true]
    exact Option.isNone_iff_eq_none.2 hroot
  rw [Tree.withoutTrailing, if_pos hcond]
  simp only [finish.leave, List.dropLast_concat]

section

variable [PatternEngine] {grammar : Grammar} {text : List Char}

/-- Where a phrase ends does not matter to its kind, so a root that has matched may be extended. -/
theorem kinds_withStop {root : Tree} (hroot : grammar.isNonterminal root.symbol = true)
    (hfault : root.fault = none) (stop : Nat)
    (h : ∀ node ∈ root.nodes, ∃ kind, grammar.IsA text node kind) :
    ∀ node ∈ ({ root with stop := stop } : Tree).nodes, ∃ kind, grammar.IsA text node kind := by
  intro node hnode
  -- Only the root has changed.
  rcases Tree.mem_nodes.1 hnode with rfl | ⟨child, hchild, hnode⟩
  · obtain ⟨kind, hkind⟩ := h root root.self_mem_nodes
    rcases hkind.fault_eq_none_iff.1 hfault with rfl | rfl
    · -- The root is no word, for it has rules.
      obtain ⟨-, -, pattern, -, hcompiles, -⟩ := hkind
      rw [hcompiles.isNonterminal_eq_false] at hroot
      cases hroot
    · exact ⟨.phrase, hkind⟩
  · exact h node (Tree.mem_nodes.2 (.inr ⟨child, hchild, hnode⟩))

/-- However a parse ends, every node is of one of the kinds, but for what is left over. -/
theorem Ends.kinds {symbol : String} {root tree : Tree} {p place : Place}
    (h : Ends grammar symbol root place tree) (hmatch : grammar.Matches symbol p root place)
    (hsymbol : grammar.isNonterminal symbol = true) (hp : p.At text) :
    ∀ node ∈ tree.withoutTrailing.nodes, ∃ kind, grammar.IsA text node kind := by
  have hkinds := hmatch.kinds (Table.mem_names_of_contains hsymbol) hp
  rw [← hmatch.symbol_eq] at hsymbol
  cases h with
  | failed hfault =>
    rw [Tree.withoutTrailing_of_fault hfault]
    exact hkinds
  | whole hfault _ _ =>
    have hclean := hmatch.fails.1 hfault
    rw [Tree.withoutTrailing_of_hasFault (by rw [Tree.hasFault_withStop, hclean])]
    exact kinds_withStop hsymbol hfault _ hkinds
  | left hfault _ _ =>
    rw [withoutTrailing_leave hfault]
    exact kinds_withStop hsymbol hfault _ hkinds
  | unclosed hfault _ =>
    rw [withoutTrailing_leave hfault]
    exact kinds_withStop hsymbol hfault _ hkinds

/-- What is set aside is the report of what is left over. -/
theorem Ends.children_eq {symbol : String} {root tree : Tree} {place : Place}
    (h : Ends grammar symbol root place tree) (hroot : root.fault = none → root.hasFault = false)
    (hnone : tree.fault = none) (hfault : tree.hasFault = true) :
    ∃ fault, tree.children =
      tree.withoutTrailing.children ++ [.failed "" tree.stop fault] := by
  cases h with
  | failed hsome => exact absurd hnone hsome
  | whole hclean _ _ =>
    rw [Tree.hasFault_withStop, hroot hclean] at hfault
    cases hfault
  | left hclean _ _ =>
    rw [withoutTrailing_leave hclean]
    exact ⟨_, rfl⟩
  | unclosed hclean _ =>
    rw [withoutTrailing_leave hclean]
    exact ⟨_, rfl⟩

/-- **The tree of a parse is a derivation**, as far as it goes. It has the name of the symbol; each
of its nodes is of exactly one of the kinds, but for the child that reports what is left over; and
if there is no fault, its words are derived from the symbol by the rules as a context-free
grammar. -/
theorem tree_is_derivation {source symbol : String} {tree : Tree}
    (h : grammar.parse source symbol = .ok tree) :
    tree.symbol = symbol ∧
      (∀ node ∈ tree.withoutTrailing.nodes, ∃! kind, grammar.IsA source.toList node kind) ∧
      (tree.fault = none → tree.hasFault = true → ∃ fault,
        tree.children = tree.withoutTrailing.children ++ [.failed "" tree.stop fault]) ∧
      (tree.hasFault = false →
        grammar.words tree ∈ (grammar.contextFree symbol).language) := by
  have hsymbol := (parse_eq_ok_iff.1 h).1
  obtain ⟨root, place, hmatch, hends⟩ := exists_of_parse_eq_ok h
  have hkinds := hends.kinds hmatch hsymbol (Place.at_begin source.toList)
  have hname : tree.symbol = symbol := by
    rw [← hmatch.symbol_eq]
    cases hends <;> rfl
  refine ⟨hname, fun node hnode => ?_, hends.children_eq hmatch.fails.1, fun hfault => ?_⟩
  · obtain ⟨kind, hkind⟩ := hkinds node hnode
    exact ⟨kind, hkind, fun kind' hkind' => hkind'.unique hkind⟩
  · -- Without a fault nothing is set aside.
    rw [Tree.withoutTrailing_of_hasFault hfault] at hkinds
    have hderives := derives_of_kinds symbol hfault hkinds
    rw [hname, contextFreeSymbol, if_pos hsymbol] at hderives
    exact hderives

end

/-- The tree of a row of two words. -/
def twoWords : Tree :=
  ⟨"Row", 0, 3, [⟨"Word", 0, 1, [⟨"a", 0, 1, [], none⟩], none⟩,
    ⟨"Row", 2, 3, [⟨"Word", 2, 3, [⟨"b", 2, 3, [], none⟩], none⟩, ⟨"Row", 3, 3, [], none⟩],
      none⟩], none⟩

/-- The two words are derived without a fault; with a third one that is none, the row in front of
it is a derivation all the same. -/
theorem tree_is_derivation_rows :
    rows.parse "a b" "Row" = .ok twoWords ∧ twoWords.hasFault = false ∧
      ["a", "b"] ∈ (rows.contextFree "Row").language ∧
      rows.parse "a /*é*/ b z" "Row" = .ok brokenRow ∧
      (∀ node ∈ brokenRow.withoutTrailing.nodes, ∃! kind,
        rows.IsA "a /*é*/ b z".toList node kind) ∧
      ∃ fault, brokenRow.children =
        brokenRow.withoutTrailing.children ++ [.failed "" brokenRow.stop fault] := by
  have hparse : rows.parse "a b" "Row" = .ok twoWords := by cbv
  have hfault : twoWords.hasFault = false := by cbv
  have hbroken : rows.parse "a /*é*/ b z" "Row" = .ok brokenRow := by cbv
  obtain ⟨-, -, -, hwords⟩ := tree_is_derivation hparse
  obtain ⟨-, hkinds, htrailing, -⟩ := tree_is_derivation hbroken
  exact ⟨hparse, hfault, hwords hfault, hbroken, hkinds, htrailing rfl (by cbv)⟩

end Grammar

end OrderedChoice
