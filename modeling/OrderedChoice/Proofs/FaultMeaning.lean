import OrderedChoice.Proofs.Recognition

/-!
# What a fault says about the text

A fault is found at a leaf and is handed up from there to the root, through choices and attempts
that are given up. What it says is true of the text at the place where it was found:

* a comment is **not closed** if the first comment that opens there is a block comment whose
  closing does not occur behind it (`Unclosed`);
* there is **no match** if nothing can be skipped there and the symbol is a terminal whose pattern
  does not match, or a nonterminal without expansions;
* there is **text left over** behind the symbol of the parse if that symbol has matched and the
  skipping behind it ended in front of more text (`Grammar.LeftOver`).

`Grammar.Matches.faultHolds` is the statement about runs, which never report text that is left
over, and `Grammar.fault_is_true` the one about parses.
-/

namespace OrderedChoice

/-! ### Texts that do not occur -/

theorem Text.dropPrefix?_append (mark rest : List Char) :
    dropPrefix? mark (mark ++ rest) = some rest := by
  induction mark with
  | nil => rfl
  | cons c cs ih => rw [List.cons_append, dropPrefix?, if_pos rfl, ih]

/-- A place has no way behind a text exactly if that text does not come next. -/
theorem Place.skipText?_eq_none_iff {mark : List Char} {p : Place} :
    p.skipText? mark = none ↔ ¬ mark <+: p.rest := by
  rw [skipText?, Option.map_eq_none_iff]
  constructor
  · rintro hnone ⟨rest, hrest⟩
    rw [← hrest, Text.dropPrefix?_append] at hnone
    cases hnone
  · intro hmark
    cases hdrop : Text.dropPrefix? mark p.rest with
    | none => rfl
    | some rest => exact absurd ⟨rest, (Text.dropPrefix?_eq_some hdrop).symm⟩ hmark

/-- A text is not found exactly if it does not occur. -/
theorem Place.findText?_eq_none_iff {mark : List Char} {offset : Nat} {text : List Char} :
    findText? mark offset text = none ↔ ¬ mark <:+: text := by
  induction text generalizing offset with
  | nil => rw [findText?, skipText?_eq_none_iff, List.prefix_nil, List.infix_nil]
  | cons c cs ih =>
    -- It occurs here, or further on.
    rw [findText?, List.infix_cons_iff, not_or, ← @ih (offset + c.utf8Size)]
    cases hskip : skipText? mark ⟨offset, c :: cs⟩ with
    | none => simp only [skipText?_eq_none_iff.1 hskip, not_false_eq_true, true_and]
    | some next =>
      have hmark : mark <+: c :: cs := by
        by_contra hnot
        rw [skipText?_eq_none_iff.2 hnot] at hskip
        cases hskip
      simp only [hmark, not_true_eq_false, false_and, reduceCtorEq]

/-! ### Comments that are not closed -/

/-- **A comment at the front of a text is not closed**: of the comments that open there the first
one is a block comment, and its closing does not occur behind its opening. -/
def Unclosed (comments : List Comment) (text : List Char) : Prop :=
  ∃ before comment after closing body, comments = before ++ comment :: after ∧
    (∀ earlier ∈ before, ¬ earlier.opening.toList <+: text) ∧
    text = comment.opening.toList ++ body ∧ comment.closing = some closing ∧
    ¬ closing.toList <:+: body

theorem unclosed_of_opened? {comments : List Comment} {p body : Place} {comment : Comment}
    (hopened : opened? comments p = some (comment, body)) (hbody : comment.skipBody? body = none) :
    Unclosed comments p.rest := by
  obtain ⟨before, found, after, hcomments, hfound, hbefore⟩ := List.findSome?_eq_some_iff.1 hopened
  obtain ⟨place, hplace, hpair⟩ := Option.map_eq_some_iff.1 hfound
  obtain ⟨rfl, rfl⟩ := Prod.mk.inj hpair
  obtain ⟨rest, hrest, rfl⟩ := Option.map_eq_some_iff.1 hplace
  rw [Comment.skipBody?] at hbody
  split at hbody
  · next closing hclosing =>
    refine ⟨before, found, after, closing, rest, hcomments, fun earlier hearlier => ?_,
      Text.dropPrefix?_eq_some hrest, hclosing, Place.findText?_eq_none_iff.1 hbody⟩
    exact Place.skipText?_eq_none_iff.1 (Option.map_eq_none_iff.1 (hbefore earlier hearlier))
  · -- A line comment always ends.
    cases hbody

/-- **Skipping stops with an error where a comment is not closed.** -/
theorem unclosed_of_skip_error {comments : List Comment} {p opening : Place}
    (h : skip comments p = .error opening) :
    skip comments opening = .error opening ∧ Unclosed comments opening.rest := by
  have hstable := skip_skipEnd comments p
  rw [h] at hstable
  refine ⟨hstable, ?_⟩
  revert h
  -- The comments that are closed are skipped; the error comes from one that is not.
  induction p using skip_induction comments with
  | stop p _ => exact nofun
  | unclosed p comment body hopened hbody =>
    intro h
    rw [← Except.error.inj h]
    exact unclosed_of_opened? hopened hbody
  | comment p comment body next _ _ ih => exact ih

namespace Grammar

/-- If one node only has a fault, there is no other fault. -/
theorem faults_of_filter_eq {tree leaf : Tree} {fault : Fault}
    (h : tree.nodes.filter (·.fault.isSome) = [leaf]) (hleaf : leaf.fault = some fault) :
    ∀ node ∈ tree.nodes, node.fault = none ∨ node.fault = some fault := by
  intro node hnode
  by_cases hnone : node.fault = none
  · exact .inl hnone
  · have hmem : node ∈ tree.nodes.filter (·.fault.isSome) :=
      List.mem_filter.2 ⟨hnode, Option.isSome_iff_ne_none.2 hnone⟩
    rw [h, List.mem_singleton] at hmem
    exact .inr (hmem ▸ hleaf)

section

variable [PatternEngine] {grammar : Grammar} {text : List Char}

/-! ### Runs -/

/-- **A fault is true of the text at a leaf.** What it means that text is left over behind a symbol
is a parameter, since no run says so. -/
def FaultHolds (grammar : Grammar) (text : List Char) (leaf : Tree) (leftOver : String → Prop) :
    Fault → Prop
  | .unterminatedComment => skipFrom grammar.comments text leaf.start = .error leaf.start ∧
      Unclosed grammar.comments (Text.dropBytes leaf.start text)
  | .noMatch => skipFrom grammar.comments text leaf.start = .ok leaf.start ∧
      ((∃ pattern, grammar.Compiles leaf.symbol pattern ∧
        pattern.matchBytes? (Text.dropBytes leaf.start text) = none) ∨
      grammar.rules.get? leaf.symbol = some [])
  | .unparsableAfter symbol => leftOver symbol

theorem faultHolds_unterminatedComment {p opening : Place} (hp : p.At text)
    (hskip : skip grammar.comments p = .error opening) (name : String) (leftOver : String → Prop) :
    grammar.FaultHolds text (.failed name opening.offset .unterminatedComment) leftOver
      .unterminatedComment := by
  have hopening : opening.At text := hp.of_le (le_of_skip_error hskip)
  obtain ⟨hstable, hunclosed⟩ := unclosed_of_skip_error hskip
  rw [← hopening.dropBytes] at hunclosed
  exact ⟨skipFrom_of_skip_error hopening hstable, hunclosed⟩

/-- Where skipping has ended, it does not lead further. -/
theorem skipFrom_stable {p q : Place} (hp : p.At text) (hskip : skip grammar.comments p = .ok q) :
    skipFrom grammar.comments text q.offset = .ok q.offset :=
  skipFrom_of_skip_ok (hp.of_le (le_of_skip_ok hskip)) (skip_of_skip_ok hskip)

/-- What a run in a text says about its leaves: their faults are true, and none of them is that text
is left over. -/
def LeavesAreTrue (grammar : Grammar) (text : List Char) (name : String) (p : Place)
    (tree : Tree) : Prop :=
  name ∈ Table.names grammar.rules → p.At text → ∀ leaf ∈ tree.leaves, ∀ fault,
    leaf.fault = some fault → grammar.FaultHolds text leaf (fun _ => False) fault

/-- A leaf that has failed is its own only leaf. -/
theorem faultHolds_of_mem_leaves {leftOver : String → Prop} {name : String} {place : Nat}
    {fault : Fault}
    (h : grammar.FaultHolds text (.failed name place fault) leftOver fault) :
    ∀ leaf ∈ (Tree.failed name place fault).leaves, ∀ found, leaf.fault = some found →
      grammar.FaultHolds text leaf leftOver found := by
  intro leaf hleaf found hfound
  obtain rfl : leaf = .failed name place fault := List.mem_singleton.1 hleaf
  obtain rfl : fault = found := Option.some.inj hfound
  exact h

/-- **The faults of a run are true of the text.** -/
theorem Matches.faultHolds {name : String} {p next : Place} {tree : Tree}
    (h : grammar.Matches name p tree next) : grammar.LeavesAreTrue text name p tree := by
  refine h.node_induction (motive := fun name p tree _ => grammar.LeavesAreTrue text name p tree)
    ?unterminated ?matched ?unmatched ?barren ?spelled
  case unterminated =>
    intro name p opening hskip _ hp
    exact faultHolds_of_mem_leaves (faultHolds_unterminatedComment hp hskip name _)
  case matched =>
    intro name p q pattern n _ _ _ _ _ _ leaf hleaf fault hfault
    -- The node is a leaf without a fault.
    rw [List.mem_singleton.1 hleaf] at hfault
    cases hfault
  case unmatched =>
    intro name p q pattern hskip hget hpattern hlength hname hp
    have hq : q.At text := hp.of_le (le_of_skip_ok hskip)
    -- The fault is reported where skipping has ended, so there is nothing more to skip.
    refine faultHolds_of_mem_leaves ⟨skipFrom_stable hp hskip, .inl ⟨pattern, ?_, ?_⟩⟩
    · exact (compiles_iff hname).2 ⟨hget, hpattern⟩
    · change pattern.matchBytes? (Text.dropBytes q.offset text) = none
      rw [hq.dropBytes, Pattern.matchBytes?, hlength, Option.map_none]
  case barren =>
    intro name p q hskip hget _ hp
    exact faultHolds_of_mem_leaves ⟨skipFrom_stable hp hskip, .inr hget⟩
  case spelled =>
    intro name p q expansions expansion attempt hskip hget hmem hspells _ hp leaf hleaf fault hfault
    have hq : q.At text := hp.of_le (le_of_skip_ok hskip)
    by_cases hchildren : attempt.children = []
    · -- An attempt without children has not failed.
      rw [Tree.leaves_of_children_nil hchildren, List.mem_singleton] at hleaf
      rw [hleaf] at hfault
      rw [show attempt.fault = none from (hspells.of_children_nil hchildren).2] at hfault
      cases hfault
    · rw [Tree.leaves_of_children_ne_nil hchildren, List.mem_flatMap] at hleaf
      obtain ⟨child, hchild, hleaf⟩ := hleaf
      obtain ⟨part, r, next, hpart, hr, htrue⟩ :=
        exists_reading_of_child (motive := fun name p tree _ => grammar.LeavesAreTrue text name p
          tree) hget hmem hspells hq hchild
      exact htrue hpart hr leaf hleaf fault hfault

/-! ### Parses -/

/-- **Text is left over behind a symbol**: the leaf that says so is the last child of the root and
has no name, nothing can be skipped there and it is not the end of the text, and the symbol has
matched up to a place from which skipping leads there. No other node has a fault. -/
structure LeftOver (grammar : Grammar) (source symbol : String) (tree leaf : Tree) : Prop where
  /-- The leaf is the last child of the root. -/
  last : tree.children.getLast? = some leaf
  /-- It has no name. -/
  unnamed : leaf.symbol = ""
  /-- There is text left. -/
  before_end : leaf.start < Text.byteLength source.toList
  /-- It begins with a character that means something. -/
  meaningful : skipFrom grammar.comments source.toList leaf.start = .ok leaf.start
  /-- The symbol has matched in front of it. -/
  behind : ∃ id root, grammar.table.idOf? symbol = some id ∧
    grammar.Returns source.toList id 0 root ∧ root.fault = none ∧
    skipFrom grammar.comments source.toList root.stop = .ok leaf.start
  /-- No other node has a fault. -/
  only : tree.nodes.filter (·.fault.isSome) = [leaf]

/-- What is true without text left over stays so. -/
theorem FaultHolds.of_run {leaf : Tree} {fault : Fault} (leftOver : String → Prop)
    (h : grammar.FaultHolds text leaf (fun _ => False) fault) :
    grammar.FaultHolds text leaf leftOver fault := by
  cases fault with
  | unterminatedComment => exact h
  | noMatch => exact h
  | unparsableAfter symbol => exact h.elim

/-- The symbol of a parse has matched at the beginning of the text. -/
theorem Matches.returns {source symbol : String} {root : Tree} {place : Place}
    (h : grammar.Matches symbol (.begin source.toList) root place)
    (hsymbol : grammar.isNonterminal symbol = true) :
    ∃ id, grammar.table.idOf? symbol = some id ∧ grammar.Returns source.toList id 0 root := by
  have hid := idOf?_eq_some_iff.2 ⟨Table.mem_names_of_contains hsymbol, rfl⟩
  refine ⟨_, hid, (returns_iff hid).2 ⟨place, ?_⟩⟩
  rw [(Place.at_begin source.toList).eq_ofOffset] at h
  exact h

theorem leftOver_leave {source symbol : String} {root : Tree} {place next : Place}
    (h : grammar.Matches symbol (.begin source.toList) root place)
    (hsymbol : grammar.isNonterminal symbol = true) (hfault : root.fault = none)
    (hskip : skip grammar.comments place = .ok next) (hrest : next.rest ≠ []) :
    grammar.LeftOver source symbol (finish.leave root next (.unparsableAfter symbol))
      (.failed "" next.offset (.unparsableAfter symbol)) := by
  obtain ⟨hle, hstop⟩ := h.le
  have hplace : place.At source.toList := (Place.at_begin source.toList).of_le hle
  have hnext : next.At source.toList := hplace.of_le (le_of_skip_ok hskip)
  obtain ⟨id, hid, hreturns⟩ := h.returns hsymbol
  refine ⟨?_, rfl, ?_, skipFrom_stable hplace hskip, ⟨id, root, hid, hreturns, hfault, ?_⟩, ?_⟩
  · exact List.getLast?_concat
  · -- Only the end of the text has its length as offset.
    refine lt_of_le_of_ne hnext.offset_le fun hend => ?_
    exact hrest (hnext.rest_nil_of_offset hend)
  · -- The node of the symbol ends where matching did, in front of what was skipped.
    rw [hstop]
    exact skipFrom_of_skip_ok hplace hskip
  · exact (failsOnlyAt_leave (h.fails.1 hfault) next (.unparsableAfter symbol)).2.2

/-- **The fault of a parse is true of the text** at the failure. It is the only fault in the tree,
and that text is left over is said by the child behind the root alone. -/
theorem fault_is_true {source symbol : String} {tree : Tree}
    (h : grammar.parse source symbol = .ok tree) (hfault : tree.hasFault = true) :
    ∃ leaf fault, tree.failure? = some leaf ∧ leaf.fault = some fault ∧
      grammar.FaultHolds source.toList leaf
        (fun name => name = symbol ∧ grammar.LeftOver source symbol tree leaf) fault ∧
      ∀ node ∈ tree.nodes, node.fault = none ∨ node.fault = some fault := by
  have hsymbol := (parse_eq_ok_iff.1 h).1
  obtain ⟨root, place, hmatch, hends⟩ := exists_of_parse_eq_ok h
  have hbegin : (Place.begin source.toList).At source.toList := Place.at_begin source.toList
  have hplace : place.At source.toList := hbegin.of_le hmatch.le.1
  obtain ⟨hclean, hfails⟩ := hmatch.fails
  cases hends with
  | failed hroot =>
    -- The fault was handed up from a leaf of the run.
    obtain ⟨fault, hroot⟩ := Option.ne_none_iff_exists'.1 hroot
    obtain ⟨leaf, hleaf, hnodes, hpath⟩ := (hfails fault hroot).exists_failsOnlyAt
    have hfault : leaf.fault = some fault := hpath leaf (List.mem_of_getLast? hleaf.path_last)
    have hholds := hmatch.faultHolds (Table.mem_names_of_contains hsymbol) hbegin leaf
      (List.mem_of_getLast? hleaf.last) fault hfault
    refine ⟨leaf, fault, hleaf.failure, hfault, hholds.of_run _, fun node hnode => ?_⟩
    by_cases hnone : node.fault = none
    · exact .inl hnone
    · refine .inr (hpath node ?_)
      rw [← hnodes]
      exact List.mem_filter.2 ⟨hnode, Option.isSome_iff_ne_none.2 hnone⟩
  | whole hroot _ _ =>
    rw [Tree.hasFault_withStop, hclean hroot] at hfault
    cases hfault
  | left hroot hskip hrest =>
    -- The root has matched without a fault, and the child behind it has the only one.
    obtain ⟨hleaf, -, hnodes⟩ := failsOnlyAt_leave (hclean hroot) _ (.unparsableAfter symbol)
    refine ⟨_, _, hleaf.failure, rfl, ⟨rfl, ?_⟩, faults_of_filter_eq hnodes rfl⟩
    exact leftOver_leave hmatch hsymbol hroot hskip hrest
  | unclosed hroot hskip =>
    obtain ⟨hleaf, -, hnodes⟩ := failsOnlyAt_leave (hclean hroot) _ .unterminatedComment
    refine ⟨_, _, hleaf.failure, rfl, ?_, faults_of_filter_eq hnodes rfl⟩
    exact faultHolds_unterminatedComment hplace hskip "" _

end

/-- The tree of a word with a comment behind it that is not closed. -/
def openWord : Tree :=
  ⟨"Word", 0, 2, [⟨"a", 0, 1, [], none⟩, .failed "" 2 .unterminatedComment], none⟩

theorem fault_is_true_openWord :
    rows.parse "a /* b" "Word" = .ok openWord ∧ openWord.hasFault = true ∧
      ∃ leaf, openWord.failure? = some leaf ∧ leaf.start = 2 ∧
        skipFrom rows.comments "a /* b".toList 2 = .error 2 ∧
        Unclosed rows.comments "/* b".toList := by
  have hparse : rows.parse "a /* b" "Word" = .ok openWord := by cbv
  have hfault : openWord.hasFault = true := by cbv
  obtain ⟨leaf, fault, hfailure, hleaf, hholds, -⟩ := fault_is_true hparse hfault
  have hfound : openWord.failure? = some (.failed "" 2 .unterminatedComment) := by cbv
  obtain rfl := Option.some.inj (hfound.symm.trans hfailure)
  obtain rfl := Option.some.inj hleaf
  have hdrop : Text.dropBytes 2 "a /* b".toList = "/* b".toList := by cbv
  exact ⟨hparse, hfault, _, hfailure, rfl, hholds.1, hdrop ▸ hholds.2⟩

end Grammar

end OrderedChoice
