import Mathlib.Data.List.Basic
import OrderedChoice.Proofs.Walk
import OrderedChoice.Tree.Render

/-!
# The text form of a tree has a line for each node

A line of the text form holds a name, two numbers and a fault or the text of a leaf. The text of a
leaf is arbitrary, so it decides whether the lines are the nodes: it is shown between quotes, and
showing it leaves no line feed, whatever characters it has. The names are written as they are, and
are asked to be on one line.

The blanks at the front of a line then tell the depth of its node, and the depths in pre-order tell
the shape of the tree, its `Outline`. It is read off from the last line to the first
(`Outline.plant`): a line takes the trees behind it that are deeper than itself as its children, and
leaves the others.

* `Tree.lineFeed_not_mem_row`: no part of a line is broken.
* `Outline.foldr_plant_preorder`: a tree is read back in front of what is no deeper.
* `Tree.text_has_line_for_each_node`: the lines are those of the nodes, and show the shape.
-/

namespace OrderedChoice

/-! ### Texts without line feeds -/

namespace Text

theorem lineFeed_not_mem_toDigits (n : Nat) : '\n' ∉ Nat.toDigits 16 n := by
  have hdigit : ∀ n < 16, '\n' ≠ Nat.digitChar n := by decide
  induction n using Nat.strongRecOn with
  | ind n ih =>
    rw [Nat.toDigits_eq_if (by decide)]
    split
    · next hlt => exact mt List.mem_singleton.1 (hdigit n hlt)
    · next hge =>
      rw [List.mem_append, not_or, List.mem_singleton]
      exact ⟨ih (n / 16) (by omega), hdigit _ (Nat.mod_lt _ (by decide))⟩

theorem lineFeed_not_mem_decimal (n : Nat) : '\n' ∉ (decimal n).toList := by
  intro h
  rw [decimal, String.toList_ofList] at h
  exact absurd (Nat.isDigit_of_mem_toDigits (by decide) (by decide) h) (by decide)

/-- **Showing a character leaves no line feed.** -/
theorem lineFeed_not_mem_showChar (c : Char) : '\n' ∉ showChar c := by
  unfold showChar
  split
  case h_7 hlineFeed _ _ _ =>
    split
    · have hdigits := lineFeed_not_mem_toDigits c.toNat
      simp [hdigits]
    · exact mt List.mem_singleton.1 fun h => hlineFeed h.symm
  all_goals decide

theorem lineFeed_not_mem_quoted (text : List Char) : '\n' ∉ quoted text := by
  intro h
  simp only [quoted, List.cons_append, List.mem_cons, List.mem_append, List.mem_flatMap,
    List.not_mem_nil, or_false] at h
  rcases h with h | ⟨c, -, h⟩ | h
  · exact absurd h (by decide)
  · exact lineFeed_not_mem_showChar c h
  · exact absurd h (by decide)

/-- **Lines that are ended by line feeds are found again**, with nothing behind the last one. -/
theorem splitOn_flatMap {α : Type} (row : α → List Char) (items : List α)
    (h : ∀ item ∈ items, '\n' ∉ row item) :
    (items.flatMap fun item => row item ++ ['\n']).splitOn '\n' = items.map row ++ [[]] := by
  induction items with
  | nil => exact List.splitOn_nil _
  | cons item items ih =>
    rw [List.forall_mem_cons] at h
    rw [List.flatMap_cons, List.append_assoc, List.singleton_append,
      List.splitOn_append_cons_self_of_not_mem h.1, ih h.2, List.map_cons, List.cons_append]

end Text

theorem Fault.lineFeed_not_mem_text {fault : Fault}
    (h : ∀ symbol, fault = .unparsableAfter symbol → '\n' ∉ symbol.toList) :
    '\n' ∉ fault.text.toList := by
  cases fault with
  | noMatch => rw [text_noMatch]; decide
  | unterminatedComment => rw [text_unterminatedComment]; decide
  | unparsableAfter symbol =>
    have hsymbol := h symbol rfl
    rw [toList_text_unparsableAfter]
    simp [hsymbol]

/-! ### Lines of nodes -/

namespace Tree

/-- **Names are on one line each**, those of the nodes and those in faults. -/
def NamesOnOneLine (tree : Tree) : Prop :=
  ∀ node ∈ tree.nodes, '\n' ∉ node.symbol.toList ∧
    ∀ symbol, node.fault = some (.unparsableAfter symbol) → '\n' ∉ symbol.toList

/-- The name of a node as it is written: a node without one is text that is left over. -/
def shownName (node : Tree) : List Char :=
  if node.symbol = "" then "<input>".toList else node.symbol.toList

/-- What is written about a node: its fault, or the text that it covers if it has neither a fault
nor children. -/
def note (source : String) (node : Tree) : List Char :=
  match node.fault, node.children with
  | some fault, _ => ' ' :: fault.text.toList
  | none, [] => ' ' :: Text.quoted (node.content source).toList
  | none, _ :: _ => []

/-- **What the line of a node says**: two blanks for each level of its depth, its name, where it
begins and ends, and what there is to say about it. -/
def row (source : String) (depth : Nat) (node : Tree) : List Char :=
  List.replicate (2 * depth) ' ' ++ node.shownName ++
    [' ', '['] ++ (Text.decimal node.start).toList ++ ['.', '.'] ++
    (Text.decimal node.stop).toList ++ [']'] ++ node.note source

theorem toList_label (node : Tree) : node.label.toList = node.shownName := by
  rw [label, shownName]
  split <;> rfl

theorem toList_remark (source : String) (node : Tree) :
    (node.remark source false).toList = node.note source := by
  cases node with
  | mk symbol start stop children fault =>
    cases fault with
    | some fault => simp [remark, Text.styled, note]
    | none => cases children <;> simp [remark, isLeaf, note]

theorem toList_line (source : String) (depth : Nat) (node : Tree) :
    (node.line source false depth).toList = node.row source depth ++ ['\n'] := by
  simp [line, spaces, Text.styled, row, toList_label, toList_remark]

theorem toList_toText (source : String) (tree : Tree) :
    (tree.toText source false).toList =
      (tree.preorder 0).flatMap fun (depth, node) => node.row source depth ++ ['\n'] := by
  rw [toText, String.toList_join, List.flatMap_map]
  exact List.flatMap_congr fun _ _ => toList_line _ _ _

/-- **No part of a line is broken**: the names are on one line, digits are no line feeds, and the
text of a leaf is shown. -/
theorem lineFeed_not_mem_row {source : String} {depth : Nat} {tree node : Tree}
    (h : tree.NamesOnOneLine) (hnode : node ∈ tree.nodes) : '\n' ∉ node.row source depth := by
  obtain ⟨hsymbol, hfault⟩ := h node hnode
  have hname : '\n' ∉ node.shownName := by
    rw [shownName]
    split
    · decide
    · exact hsymbol
  have hnote : '\n' ∉ node.note source := by
    rw [note]
    cases hcause : node.fault with
    | some fault =>
      have htext : '\n' ∉ fault.text.toList :=
        Fault.lineFeed_not_mem_text fun symbol hfaultIs => hfault symbol (by rw [hcause, hfaultIs])
      simp [htext]
    | none =>
      cases node.children with
      | nil => simp [Text.lineFeed_not_mem_quoted]
      | cons child children => exact List.not_mem_nil
  have hstart := Text.lineFeed_not_mem_decimal node.start
  have hstop := Text.lineFeed_not_mem_decimal node.stop
  simp [row, hname, hnote, hstart, hstop]

theorem splitOn_toText {source : String} {tree : Tree} (h : tree.NamesOnOneLine) :
    (tree.toText source false).toList.splitOn '\n' =
      ((tree.preorder 0).map fun (depth, node) => node.row source depth) ++ [[]] := by
  rw [toList_toText]
  refine Text.splitOn_flatMap (fun item : Nat × Tree => item.2.row source item.1) _ ?_
  exact fun item hitem => lineFeed_not_mem_row h (List.mem_map_of_mem hitem)

end Tree

/-! ### Outlines -/

/-- **Outline**: the shape of a tree, without what its nodes say. -/
inductive Outline where
  | node (children : List Outline)

namespace Tree

mutual

/-- **The outline of a tree.** -/
def outline : Tree → Outline
  | ⟨_, _, _, children, _⟩ => .node (outlines children)

/-- The outlines of some trees. -/
def outlines : List Tree → List Outline
  | [] => []
  | tree :: trees => outline tree :: outlines trees

end

theorem outlines_eq (trees : List Tree) : outlines trees = trees.map outline := by
  induction trees with
  | nil => rfl
  | cons tree trees ih => rw [outlines, ih, List.map_cons]

theorem outline_eq (tree : Tree) : tree.outline = .node (tree.children.map outline) := by
  cases tree
  rw [outline, outlines_eq]

end Tree

namespace Outline

/-- **A node is put in front of the trees behind it**: those that are deeper than it, up to the
first that is not, become its children. -/
def plant (depth : Nat) (planted : List (Nat × Outline)) : List (Nat × Outline) :=
  (depth, .node ((planted.takeWhile (depth < ·.1)).map (·.2))) ::
    planted.dropWhile (depth < ·.1)

/-- **The trees whose nodes have given depths** in pre-order. -/
def ofDepths (depths : List Nat) : List Outline := (depths.foldr plant []).map (·.2)

/-- A node takes what has been planted one level deeper, and leaves what is no deeper. -/
theorem plant_append {depth : Nat} (children : List Outline) {planted : List (Nat × Outline)}
    (h : ∀ item ∈ planted, item.1 ≤ depth) :
    plant depth (children.map (depth + 1, ·) ++ planted) = (depth, .node children) :: planted := by
  have hdeeper : ∀ item ∈ children.map (depth + 1, ·), decide (depth < item.1) = true := by
    intro item hitem
    obtain ⟨child, -, rfl⟩ := List.mem_map.1 hitem
    exact decide_eq_true (Nat.lt_succ_self depth)
  have hleft : planted.takeWhile (depth < ·.1) = [] ∧
      planted.dropWhile (depth < ·.1) = planted := by
    cases planted with
    | nil => exact ⟨rfl, rfl⟩
    | cons item planted =>
      have hitem : ¬ depth < item.1 := Nat.not_lt.2 (h item List.mem_cons_self)
      simp [hitem]
  have houtlines : (children.map (depth + 1, ·)).map (·.2) = children := by
    rw [List.map_map]
    exact List.map_id children
  rw [plant, List.takeWhile_append_of_pos hdeeper, List.dropWhile_append_of_pos hdeeper, hleft.1,
    hleft.2, List.append_nil, houtlines]

/-- **A tree is read back from the depths of its nodes**, in front of what is no deeper than its
root. -/
theorem foldr_plant_preorder (tree : Tree) (depth : Nat) (planted : List (Nat × Outline))
    (h : ∀ item ∈ planted, item.1 ≤ depth) :
    ((tree.preorder depth).map (·.1)).foldr plant planted = (depth, tree.outline) :: planted := by
  induction tree using Tree.induction generalizing depth planted with
  | node tree ih =>
    -- The children are planted from the last to the first.
    have hchildren : ∀ children : List Tree, (∀ child ∈ children, child ∈ tree.children) →
        ((children.flatMap (Tree.preorder (depth + 1))).map (·.1)).foldr plant planted =
          (children.map Tree.outline).map (depth + 1, ·) ++ planted := by
      intro children hsub
      induction children with
      | nil => rfl
      | cons child children ihchildren =>
        rw [List.forall_mem_cons] at hsub
        rw [List.flatMap_cons, List.map_append, List.foldr_append, ihchildren hsub.2,
          ih child hsub.1]
        · rfl
        · intro item hitem
          rcases List.mem_append.1 hitem with hitem | hitem
          · obtain ⟨outline, -, rfl⟩ := List.mem_map.1 hitem
            exact Nat.le_refl _
          · exact Nat.le_succ_of_le (h item hitem)
    rw [Tree.preorder_eq, List.map_cons, List.foldr_cons, hchildren _ fun _ => id,
      plant_append _ h, Tree.outline_eq]

theorem ofDepths_preorder (tree : Tree) :
    ofDepths ((tree.preorder 0).map (·.1)) = [tree.outline] := by
  rw [ofDepths, foldr_plant_preorder tree 0 [] nofun]
  rfl

end Outline

/-! ### The outline from the lines -/

/-- **Depth that a line shows**: half the number of blanks at its front. -/
def indent (line : List Char) : Nat := (line.takeWhile (· = ' ')).length / 2

namespace Tree

theorem indent_row (source : String) (depth : Nat) {node : Tree}
    (h : node.symbol.toList.head? ≠ some ' ') : indent (node.row source depth) = depth := by
  -- The name as it is shown begins with something else than a blank.
  obtain ⟨c, name, hname, hc⟩ : ∃ c name, node.shownName = c :: name ∧ c ≠ ' ' := by
    rw [shownName]
    split
    · exact ⟨'<', _, rfl, by decide⟩
    · next hne =>
      cases hsymbol : node.symbol.toList with
      | nil => exact absurd (String.toList_eq_nil_iff.1 hsymbol) hne
      | cons c name => exact ⟨c, name, rfl, fun hc => h (by rw [hsymbol, hc]; rfl)⟩
  have hblanks : ∀ b ∈ List.replicate (2 * depth) ' ', decide (b = ' ') = true := by
    intro b hb
    exact decide_eq_true (List.eq_of_mem_replicate hb)
  rw [indent, row, hname]
  simp only [List.append_assoc, List.cons_append]
  rw [List.takeWhile_append_of_pos hblanks, List.takeWhile_cons_of_neg (by simpa using hc),
    List.append_nil, List.length_replicate, Nat.mul_div_cancel_left _ (by decide)]

/-- **The text form of a tree has a line for each node**: if no name has a line feed, its lines are
those of the nodes in pre-order, each ended by a line feed, whatever the nodes cover. If no name
begins with a blank either, the depths that the lines show give the shape of the tree. -/
theorem text_has_line_for_each_node {source : String} {tree : Tree} (h : tree.NamesOnOneLine) :
    (tree.toText source false).toList.splitOn '\n' =
      ((tree.preorder 0).map fun (depth, node) => node.row source depth) ++ [[]] ∧
    ((∀ node ∈ tree.nodes, node.symbol.toList.head? ≠ some ' ') →
      Outline.ofDepths (((tree.toText source false).toList.splitOn '\n').dropLast.map indent) =
        [tree.outline]) := by
  refine ⟨splitOn_toText h, fun hblank => ?_⟩
  rw [splitOn_toText h, List.dropLast_concat, List.map_map, ← Outline.ofDepths_preorder]
  refine congrArg Outline.ofDepths (List.map_congr_left fun item hitem => ?_)
  exact indent_row source item.1 (hblank item.2 (List.mem_map_of_mem hitem))

/-- A tree whose first leaf covers a quote and a line feed, and whose last one has no name. -/
def ragged : Tree :=
  ⟨"S", 0, 5, [⟨"a b", 0, 2, [], none⟩, ⟨"T", 2, 5, [⟨"", 2, 5, [], some (.unparsableAfter "S")⟩],
    none⟩], none⟩

theorem text_has_line_for_each_node_ragged :
    ragged.NamesOnOneLine ∧ (∀ node ∈ ragged.nodes, node.symbol.toList.head? ≠ some ' ') ∧
      (ragged.toText "\"\n x\n" false).toList.splitOn '\n' =
        ["S [0..5]".toList, "  a b [0..2] \"\\\"\\n\"".toList, "  T [2..5]".toList,
          "    <input> [2..5] Unparsable code after symbol [S]".toList, []] ∧
      Outline.ofDepths
          (((ragged.toText "\"\n x\n" false).toList.splitOn '\n').dropLast.map indent) =
        [.node [.node [], .node [.node []]]] := by
  have hnames : ragged.NamesOnOneLine := by
    intro node hnode
    simp only [ragged, nodes, preorder, preorderAll, List.map_cons, List.map_nil, List.append_nil,
      List.cons_append, List.nil_append, List.mem_cons, List.not_mem_nil, or_false] at hnode
    rcases hnode with rfl | rfl | rfl | rfl
    all_goals
      refine ⟨by decide, fun symbol hfault => ?_⟩
      cases hfault
    -- Only the last node has a fault with a name in it.
    decide
  have hblank : ∀ node ∈ ragged.nodes, node.symbol.toList.head? ≠ some ' ' := by decide
  obtain ⟨hlines, houtline⟩ := text_has_line_for_each_node hnames
  exact ⟨hnames, hblank, hlines.trans (by decide +kernel), houtline hblank⟩

end Tree

end OrderedChoice
