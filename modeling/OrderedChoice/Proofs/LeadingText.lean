import OrderedChoice.Proofs.Homomorphism

/-!
# Text in front of a text

Matching never looks behind. What a symbol matches depends on the text from its place on, and the
offset of the place is only counted on. So text in front that means nothing, white space or comments
that are closed, moves the tree and changes nothing else about it: not the symbols, not what the
nodes cover, not the faults. Lines are counted from the beginning, so they grow by the lines that
end in front.

* `IsInsignificant` says that a text means nothing in front of another one, and
  `isInsignificant_of_blanks`, `isInsignificant_of_comment` and `IsInsignificant.append` say which
  texts do.
* `Grammar.leading_text_shifts`: behind such a text a parse gives the same tree, moved.
-/

namespace OrderedChoice

/-! ### Cutting behind a first part -/

namespace Text

theorem dropBytes_append_add (a b : List Char) (n : Nat) :
    dropBytes (byteLength a + n) (a ++ b) = dropBytes n b := by
  induction a with
  | nil => rw [byteLength_nil, Nat.zero_add, List.nil_append]
  | cons c cs ih =>
    have hpos := c.utf8Size_pos
    have hne : ¬ c.utf8Size + byteLength cs + n = 0 := by omega
    rw [byteLength_cons, List.cons_append, dropBytes, if_neg hne, Nat.add_assoc,
      Nat.add_sub_cancel_left, ih]

theorem takeBytes_append_add (a b : List Char) (n : Nat) :
    takeBytes (byteLength a + n) (a ++ b) = a ++ takeBytes n b := by
  induction a with
  | nil => rw [byteLength_nil, Nat.zero_add, List.nil_append, List.nil_append]
  | cons c cs ih =>
    have hpos := c.utf8Size_pos
    have hne : ¬ c.utf8Size + byteLength cs + n = 0 := by omega
    rw [byteLength_cons, List.cons_append, takeBytes, if_neg hne, Nat.add_assoc,
      Nat.add_sub_cancel_left, ih, List.cons_append]

/-- What stands between two offsets stands between them behind a first part. -/
theorem slice_append_add (a b : List Char) (start stop : Nat) :
    slice (start + byteLength a) (stop + byteLength a) (a ++ b) = slice start stop b := by
  rw [slice, slice, Nat.add_comm start, dropBytes_append_add, Nat.add_comm (byteLength a),
    Nat.add_sub_add_right]

/-- Behind a first part an offset lies further down by the line feeds in it. -/
theorem lineOf_append_add (a b : List Char) (offset : Nat) :
    lineOf (offset + byteLength a) (a ++ b) = lineOf offset b + a.count '\n' := by
  rw [lineOf, lineOf, Nat.add_comm offset, takeBytes_append_add, lineFeeds, lineFeeds,
    List.count_append, Nat.add_comm]

end Text

/-! ### Trees that are moved -/

namespace Tree

/-- **The tree `n` bytes further on.** -/
def shift (n : Nat) (tree : Tree) : Tree := tree.carry id n

theorem shift_eq (n : Nat) (tree : Tree) :
    tree.shift n =
      ⟨tree.symbol, tree.start + n, tree.stop + n, tree.children.map (shift n), tree.fault⟩ := by
  rw [shift, carry_eq, relabel_id, funext Fault.rename_id, Option.map_id']
  rfl

theorem nodes_shift (n : Nat) (tree : Tree) :
    (tree.shift n).nodes = tree.nodes.map (shift n) :=
  nodes_carry id n tree

/-- A node covers the same text behind a first part. -/
theorem content_shift (before source : String) (tree : Tree) :
    (tree.shift (Text.byteLength before.toList)).content (before ++ source) =
      tree.content source := by
  rw [content, content, shift_eq, String.toList_append, Text.slice_append_add]

/-- It begins further down by the line feeds in the first part. -/
theorem startLine_shift (before source : String) (tree : Tree) :
    (tree.shift (Text.byteLength before.toList)).startLine (before ++ source) =
      tree.startLine source + before.toList.count '\n' := by
  rw [startLine, startLine, shift_eq, String.toList_append, Text.lineOf_append_add]

end Tree

/-! ### Text that means nothing -/

/-- **A text means nothing in front of another one** if skipping from its beginning has the outcome
that skipping from its end has. -/
def IsInsignificant (comments : List Comment) (before text : List Char) : Prop :=
  skipFrom comments (before ++ text) 0 =
    skipFrom comments (before ++ text) (Text.byteLength before)

/-- Places of a text have the same outcome of skipping if their offsets do. -/
theorem skipFrom_eq_iff {comments : List Comment} {text : List Char} {p q : Place}
    (hp : p.At text) (hq : q.At text) :
    skipFrom comments text p.offset = skipFrom comments text q.offset ↔
      skip comments p = skip comments q := by
  constructor
  · intro h
    cases hskip : skip comments p with
    | ok next =>
      rw [skipFrom_of_skip_ok hp hskip] at h
      obtain ⟨hskip', -⟩ := skip_of_skipFrom_ok hq.isBoundary h.symm
      have hnext : next.At text := hp.of_le (le_of_skip_ok hskip)
      rw [← hq.eq_ofOffset, ← hnext.eq_ofOffset] at hskip'
      exact hskip'.symm
    | error opening =>
      rw [skipFrom_of_skip_error hp hskip] at h
      obtain ⟨opening', hskip'⟩ := skip_of_skipFrom_error h.symm
      rw [← hq.eq_ofOffset] at hskip'
      -- Both comments open at the same offset, and an offset of the text has one place.
      rw [skipFrom_of_skip_error hq hskip'] at h
      have hopening : opening.At text := hp.of_le (le_of_skip_error hskip)
      have hopening' : opening'.At text := hq.of_le (le_of_skip_error hskip')
      rw [hskip', hopening.eq_ofOffset, Except.error.inj h, ← hopening'.eq_ofOffset]
  · intro h
    rw [skipFrom, skipFrom, ← hp.eq_ofOffset, ← hq.eq_ofOffset, h]

/-- Behind a first part a text begins so many bytes further on. -/
theorem at_shift_begin (before text : List Char) :
    ((Place.begin text).shift (Text.byteLength before)).At (before ++ text) :=
  ⟨before, rfl, Nat.zero_add _⟩

theorem isInsignificant_iff {comments : List Comment} {before text : List Char} :
    IsInsignificant comments before text ↔
      skip comments (.begin (before ++ text)) =
        skip comments ((Place.begin text).shift (Text.byteLength before)) := by
  have hoffset : ((Place.begin text).shift (Text.byteLength before)).offset =
      Text.byteLength before := Nat.zero_add _
  rw [← skipFrom_eq_iff (Place.at_begin (before ++ text)) (at_shift_begin before text), hoffset]
  exact Iff.rfl

/-- White space in front is skipped at once. -/
theorem Place.skipWhile_append {f : Char → Bool} {before : List Char}
    (hbefore : ∀ c ∈ before, f c = true) (offset : Nat) (text : List Char) :
    skipWhile f offset (before ++ text) = skipWhile f (offset + Text.byteLength before) text := by
  induction before generalizing offset with
  | nil => rfl
  | cons c cs ih =>
    rw [List.cons_append, skipWhile, if_pos (hbefore c List.mem_cons_self),
      ih fun d hd => hbefore d (List.mem_cons_of_mem c hd), Text.byteLength_cons, Nat.add_assoc]

/-- **White space means nothing.** -/
theorem isInsignificant_of_blanks {comments : List Comment} {before text : List Char}
    (hbefore : ∀ c ∈ before, Text.isBlank c = true) : IsInsignificant comments before text := by
  have hblanks : (Place.begin (before ++ text)).skipBlanks =
      ((Place.begin text).shift (Text.byteLength before)).skipBlanks :=
    Place.skipWhile_append hbefore 0 text
  rw [isInsignificant_iff, skip_eq, skip_eq comments (Place.shift _ _), hblanks]

/-- **A comment that is closed means nothing**, also with white space in front of it. -/
theorem isInsignificant_of_comment {comments : List Comment} {comment : Comment}
    {before text : List Char} {body : Place}
    (hopened : opened? comments (Place.begin (before ++ text)).skipBlanks = some (comment, body))
    (hbody : comment.skipBody? body =
      some ((Place.begin text).shift (Text.byteLength before))) :
    IsInsignificant comments before text := by
  rw [isInsignificant_iff, skip_eq, hopened]
  simp only [hbody]

/-- Text that means nothing means nothing in front of more such text. -/
theorem IsInsignificant.append {comments : List Comment} {first second text : List Char}
    (hfirst : IsInsignificant comments first (second ++ text))
    (hsecond : IsInsignificant comments second text) :
    IsInsignificant comments (first ++ second) text := by
  rw [isInsignificant_iff] at hfirst hsecond ⊢
  rw [List.append_assoc, hfirst, skip_shift, hsecond, ← skip_shift]
  refine congrArg (skip comments) ?_
  rw [Place.shift, Place.shift, Place.shift, Text.byteLength_append, Nat.add_assoc,
    Nat.add_comm (Text.byteLength second)]

namespace Grammar

section

variable [PatternEngine] {grammar : Grammar}

/-! ### Matching goes by what is skipped to -/

/-- Places from which skipping has the same outcome are the same to a symbol. -/
theorem matches_iff_of_skip_eq {p q : Place}
    (h : skip grammar.comments p = skip grammar.comments q) (name : String) (tree : Tree)
    (next : Place) : grammar.Matches name p tree next ↔ grammar.Matches name q tree next := by
  refine exists_congr fun bound => ?_
  cases bound with
  | zero => rfl
  | succ bound => rw [matchName, matchName, h]

/-- Every grammar is its own image. -/
theorem homomorphism_id (grammar : Grammar) : Homomorphism grammar grammar Set.univ id where
  comments_eq := rfl
  closed _ _ _ _ _ _ _ _ := trivial
  nonterminal name _ expansions hget := by
    have hsame : Expansion.rename id = id :=
      funext fun expansion => congrArg Expansion.mk (List.map_id expansion.symbols)
    rw [hsame, List.map_id]
    exact hget
  terminal _ _ hget := ⟨rfl, hget⟩

/-- **Leading text only shifts the tree.** Behind a text that means nothing in front of it, a source
text is parsed to the same tree, moved by the bytes of that text; and if one parse is endless, so
is the other. All its nodes cover what they covered, and begin as many lines further down as there
are line feeds in the leading text. -/
theorem leading_text_shifts {before source symbol : String}
    (hsymbol : grammar.isNonterminal symbol = true)
    (hbefore : IsInsignificant grammar.comments before.toList source.toList) :
    grammar.parse (before ++ source) symbol =
        (grammar.parse source symbol).map (Tree.shift (Text.byteLength before.toList)) ∧
      ∀ tree, grammar.parse source symbol = .ok tree →
        (tree.shift (Text.byteLength before.toList)).nodes =
            tree.nodes.map (Tree.shift (Text.byteLength before.toList)) ∧
          ∀ node ∈ tree.nodes,
            (node.shift (Text.byteLength before.toList)).content (before ++ source) =
              node.content source ∧
            (node.shift (Text.byteLength before.toList)).startLine (before ++ source) =
              node.startLine source + before.toList.count '\n' := by
  refine ⟨?_, fun tree _ => ⟨tree.nodes_shift _, fun node _ => ⟨?_, ?_⟩⟩⟩
  · -- The parse begins as it would behind the leading text.
    have hskip : skip grammar.comments (.begin (before ++ source).toList) =
        skip grammar.comments
          ((Place.begin source.toList).shift (Text.byteLength before.toList)) := by
      rw [String.toList_append]
      exact isInsignificant_iff.1 hbefore
    exact (homomorphism_id grammar).parse_eq trivial hsymbol (matches_iff_of_skip_eq hskip symbol)
  · exact node.content_shift before source
  · exact node.startLine_shift before source

end

/-- A line feed and a comment with another one in it, in front of a row. -/
theorem leading_text_shifts_rows :
    rows.isNonterminal "Row" = true ∧
      IsInsignificant rows.comments "\n /*é\n*/".toList "a z".toList ∧
      rows.parse "a z" "Row" = .ok ⟨"Row", 0, 2, [⟨"Word", 0, 1, [⟨"a", 0, 1, [], none⟩], none⟩,
        ⟨"Row", 2, 2, [], none⟩, .failed "" 2 (.unparsableAfter "Row")], none⟩ ∧
      rows.parse ("\n /*é\n*/" ++ "a z") "Row" = .ok ⟨"Row", 9, 11,
        [⟨"Word", 9, 10, [⟨"a", 9, 10, [], none⟩], none⟩, ⟨"Row", 11, 11, [], none⟩,
          .failed "" 11 (.unparsableAfter "Row")], none⟩ ∧
      (Tree.failed "" 2 (.unparsableAfter "Row")).startLine "a z" = 0 ∧
      (Tree.failed "" 11 (.unparsableAfter "Row")).startLine ("\n /*é\n*/" ++ "a z") = 2 := by
  have hsymbol : rows.isNonterminal "Row" = true := rfl
  have hline : IsInsignificant rows.comments "\n".toList (" /*é\n*/".toList ++ "a z".toList) := by
    refine isInsignificant_of_blanks fun c hc => ?_
    rw [List.mem_singleton.1 hc]
    cbv
  have hcomment : IsInsignificant rows.comments " /*é\n*/".toList "a z".toList :=
    isInsignificant_of_comment (by cbv) (by cbv)
  have hbefore : IsInsignificant rows.comments "\n /*é\n*/".toList "a z".toList :=
    hline.append hcomment
  have hparse : rows.parse "a z" "Row" = .ok ⟨"Row", 0, 2,
      [⟨"Word", 0, 1, [⟨"a", 0, 1, [], none⟩], none⟩, ⟨"Row", 2, 2, [], none⟩,
        .failed "" 2 (.unparsableAfter "Row")], none⟩ := by cbv
  obtain ⟨hshift, hnodes⟩ := leading_text_shifts hsymbol hbefore
  rw [hparse] at hshift
  have hfirst : (Tree.failed "" 2 (.unparsableAfter "Row")).startLine "a z" = 0 := by decide
  -- What is left over is the last child of the root.
  obtain ⟨-, hlast⟩ := (hnodes _ hparse).2 (.failed "" 2 (.unparsableAfter "Row"))
    (Tree.mem_nodes.2 (.inr ⟨_, List.mem_of_getLast? rfl, Tree.self_mem_nodes _⟩))
  rw [hfirst] at hlast
  exact ⟨hsymbol, hbefore, hparse, hshift, hfirst, hlast⟩

end Grammar

end OrderedChoice
