import OrderedChoice.Proofs.Spans

/-!
# The leaves and what lies between them

The leaves of a tree stand in the source text one behind the other, and between two of them there
is what `skip` skips, no more and no less. If there is no fault this is the whole text.

* `Tiles` says that leaves are such a row.
* `Grammar.Matches.tiles`: the leaves of a run are, from the place where it begins to the place
  where it ends.
* `woven` puts the text together again from the leaves and what lies between them.
* `Grammar.leaves_tile_source`: so it is for every parse, and if there is no fault the text that
  is put together is the source text.
-/

namespace OrderedChoice

variable {comments : List Comment} {text : List Char}

/-! ### Rows of leaves -/

/-- **Leaves tile a text** from one offset to another: skipping leads from the end of each leaf to
the beginning of the next. Only the last leaf can stand at a comment that is not closed, and then
it says so. -/
inductive Tiles (comments : List Comment) (text : List Char) : Nat → List Tree → Nat → Prop where
  | nil (p : Nat) : Tiles comments text p [] p
  | cons {p stop : Nat} {leaf : Tree} {leaves : List Tree} :
    leaf.fault ≠ some .unterminatedComment → skipFrom comments text p = .ok leaf.start →
      Tiles comments text leaf.stop leaves stop → Tiles comments text p (leaf :: leaves) stop
  | unclosed {p : Nat} {leaf : Tree} :
    leaf.fault = some .unterminatedComment → skipFrom comments text p = .error leaf.start →
      Tiles comments text p [leaf] leaf.stop

namespace Tiles

/-- Skipping leads to the first leaf. -/
theorem head {p stop : Nat} {leaf : Tree} {leaves : List Tree}
    (h : Tiles comments text p (leaf :: leaves) stop)
    (hfault : leaf.fault ≠ some .unterminatedComment) :
    skipFrom comments text p = .ok leaf.start := by
  cases h with
  | cons _ hstart _ => exact hstart
  | unclosed hunclosed _ => exact absurd hunclosed hfault

/-- A row ends where its last leaf does. -/
theorem stop_eq {p stop : Nat} {leaves : List Tree} {last : Tree}
    (h : Tiles comments text p leaves stop) (hlast : leaves.getLast? = some last) :
    stop = last.stop := by
  induction h with
  | nil p => cases hlast
  | unclosed _ _ =>
    rw [List.getLast?_singleton] at hlast
    rw [Option.some.inj hlast]
  | @cons p stop leaf leaves _ _ hrest ih =>
    -- The leaf is the last one, or the last one is behind it.
    cases leaves with
    | nil =>
      cases hrest
      rw [List.getLast?_singleton] at hlast
      rw [Option.some.inj hlast]
    | cons next rest =>
      rw [List.getLast?_cons_cons] at hlast
      exact ih hlast

/-- A single leaf, not at a comment. -/
theorem leaf {p : Nat} {leaf : Tree} (hfault : leaf.fault ≠ some .unterminatedComment)
    (hskip : skipFrom comments text p = .ok leaf.start) :
    Tiles comments text p [leaf] leaf.stop :=
  .cons hfault hskip (.nil leaf.stop)

/-- A row behind a row in which nothing has failed. -/
theorem append {p q stop : Nat} {before after : List Tree} (h : Tiles comments text p before q)
    (hbefore : ∀ leaf ∈ before, leaf.fault = none) (hafter : Tiles comments text q after stop) :
    Tiles comments text p (before ++ after) stop := by
  induction h with
  | nil p => exact hafter
  | @unclosed p leaf hfault _ =>
    -- Behind a comment that is not closed nothing could follow.
    rw [hbefore leaf List.mem_cons_self] at hfault
    cases hfault
  | @cons p q leaf leaves hfault hskip _ ih =>
    refine .cons hfault hskip (ih (fun other hmem => ?_) hafter)
    exact hbefore other (List.mem_cons_of_mem leaf hmem)

/-- A row may begin wherever skipping has the same outcome. -/
theorem of_skipFrom_eq {p q stop : Nat} {leaves : List Tree} (h : Tiles comments text q leaves stop)
    (hne : leaves ≠ []) (hskip : skipFrom comments text p = skipFrom comments text q) :
    Tiles comments text p leaves stop := by
  cases h with
  | nil p => exact absurd rfl hne
  | cons hfault hstart hrest => exact .cons hfault (hskip.trans hstart) hrest
  | unclosed hfault hstart => exact .unclosed hfault (hskip.trans hstart)

end Tiles

/-! ### The text from its leaves -/

/-- **Text from an offset on, put together from leaves**: what lies in front of each leaf, the leaf
itself, and what lies behind the last one. -/
def woven (source : String) : Nat → List Tree → List Char
  | p, [] => Text.slice p (Text.byteLength source.toList) source.toList
  | p, leaf :: leaves =>
    Text.slice p leaf.start source.toList ++ (leaf.content source).toList ++
      woven source leaf.stop leaves

/-- Between two boundaries there is the text that is left behind the first and not behind the
second. -/
theorem slice_append_dropBytes {p q : Nat} (hp : Text.IsBoundary text p)
    (hq : Text.IsBoundary text q) (hle : p ≤ q) :
    Text.slice p q text ++ Text.dropBytes q text = Text.dropBytes p text := by
  have hplace := Place.at_ofOffset hp
  exact hplace.slice_append (hplace.le_of_offset_le (Place.at_ofOffset hq) hle)

theorem dropBytes_zero (text : List Char) : Text.dropBytes 0 text = text :=
  Text.dropBytes_append [] text

theorem dropBytes_byteLength (text : List Char) :
    Text.dropBytes (Text.byteLength text) text = [] := by
  have hdrop := Text.dropBytes_append text []
  rwa [List.append_nil] at hdrop

/-- **Leaves that tile a text make it up** from where they begin. -/
theorem woven_of_tiles {source : String} {p stop : Nat} {leaves : List Tree}
    (h : Tiles comments source.toList p leaves stop) (hp : Text.IsBoundary source.toList p)
    (hleaves : ∀ leaf ∈ leaves, leaf.fault = none ∧ leaf.Covers source.toList) :
    woven source p leaves = Text.dropBytes p source.toList := by
  induction h with
  | nil p =>
    have hend := Text.isBoundary_byteLength source.toList
    have hslice := slice_append_dropBytes hp hend hp.le
    rwa [dropBytes_byteLength, List.append_nil] at hslice
  | @unclosed p leaf hfault _ =>
    rw [(hleaves leaf List.mem_cons_self).1] at hfault
    cases hfault
  | @cons p stop leaf leaves _ hskip _ ih =>
    obtain ⟨-, hcovers⟩ := hleaves leaf List.mem_cons_self
    have hgap : p ≤ leaf.start :=
      Place.offset_le (le_of_skip_ok (skip_of_skipFrom_ok hp hskip).1)
    have hrest := ih hcovers.stop_boundary fun other hmem =>
      hleaves other (List.mem_cons_of_mem leaf hmem)
    calc woven source p (leaf :: leaves)
        = Text.slice p leaf.start source.toList ++ (Text.slice leaf.start leaf.stop source.toList ++
            Text.dropBytes leaf.stop source.toList) := by
          rw [woven, hrest, Tree.content, String.toList_ofList, List.append_assoc]
      _ = Text.slice p leaf.start source.toList ++ Text.dropBytes leaf.start source.toList := by
          rw [slice_append_dropBytes hcovers.start_boundary hcovers.stop_boundary hcovers.ordered]
      _ = Text.dropBytes p source.toList :=
          slice_append_dropBytes hp hcovers.start_boundary hgap

namespace Grammar

/-- The leaves of a root with a failure behind it. -/
theorem leaves_leave (root : Tree) (place : Place) (fault : Fault) :
    (finish.leave root place fault).leaves =
      root.children.flatMap Tree.leaves ++ [.failed "" place.offset fault] := by
  have hne : (finish.leave root place fault).children ≠ [] :=
    List.append_ne_nil_of_right_ne_nil _ (List.cons_ne_nil _ _)
  rw [Tree.leaves_of_children_ne_nil hne, finish.leave, List.flatMap_append,
    List.flatMap_singleton]
  rfl

section

variable [PatternEngine] {grammar : Grammar}

/-! ### Runs -/

/-- What a run in a text says about leaves: they tile what the run has read. -/
def TilesAreRight (grammar : Grammar) (text : List Char) (p : Place) (tree : Tree) (next : Place) :
    Prop :=
  p.At text → Tiles grammar.comments text p.offset tree.leaves next.offset

/-- The leaves of the children of an attempt are in a row. -/
theorem tiles_of_spells {names : List String} {p : Place} {attempt : Attempt}
    (h : Spells (fun name p tree next => grammar.Matches name p tree next ∧
      grammar.TilesAreRight text p tree next) names p attempt) (hp : p.At text) :
    Tiles grammar.comments text p.offset (attempt.children.flatMap Tree.leaves)
      attempt.place.offset := by
  induction h with
  | nil p => exact .nil p.offset
  | fail names hchild _ =>
    rw [List.flatMap_singleton]
    exact hchild.2 hp
  | cons hchild hfault _ ih =>
    -- The first child ends where the rest begins, and none of its leaves has a fault.
    rw [List.flatMap_cons]
    refine (hchild.2 hp).append (fun leaf hleaf => ?_) (ih (hp.of_le hchild.1.le.1))
    exact Tree.fault_eq_none_of_mem_leaves (hchild.1.fails.1 hfault) hleaf

/-- **The leaves of a run tile what it has read.** -/
theorem Matches.tiles {name : String} {p next : Place} {tree : Tree}
    (h : grammar.Matches name p tree next) : grammar.TilesAreRight text p tree next := by
  refine h.node_induction (motive := fun _ p tree next => grammar.TilesAreRight text p tree next)
    ?unterminated ?matched ?unmatched ?barren ?spelled
  case unterminated =>
    intro name p opening hskip hp
    exact .unclosed rfl (skipFrom_of_skip_error hp hskip)
  case matched =>
    intro name p q pattern n hskip _ _ _ hp
    exact .leaf nofun (skipFrom_of_skip_ok hp hskip)
  case unmatched =>
    intro name p q pattern hskip _ _ _ hp
    exact .leaf nofun (skipFrom_of_skip_ok hp hskip)
  case barren =>
    intro name p q hskip _ hp
    exact .leaf nofun (skipFrom_of_skip_ok hp hskip)
  case spelled =>
    intro name p q expansions expansion attempt hskip _ _ hspells hp
    have hq : q.At text := hp.of_le (le_of_skip_ok hskip)
    have hfrom := skipFrom_of_skip_ok hp hskip
    by_cases hchildren : attempt.children = []
    · -- A node that has read nothing is a leaf itself.
      have hfault := (hspells.of_children_nil hchildren).2
      rw [Tree.leaves_of_children_nil hchildren]
      exact .leaf (fun h => by rw [hfault] at h; cases h) hfrom
    · -- The first leaf stands where skipping ended, and skipping again does not lead further.
      have hstable := skipFrom_of_skip_ok hq (skip_of_skip_ok hskip)
      refine Tiles.of_skipFrom_eq ?_ (Tree.leaves_ne_nil _) (hfrom.trans hstable.symm)
      rw [Tree.leaves_of_children_ne_nil hchildren]
      exact tiles_of_spells hspells hq

/-- A nonterminal that has matched without reading anything has skipped all that there was. -/
theorem Matches.skipFrom_eq_of_children_nil {name : String} {p next : Place} {tree : Tree}
    (h : grammar.Matches name p tree next) (hname : grammar.isNonterminal name = true)
    (hfault : tree.fault = none) (hchildren : tree.children = []) (hp : p.At text) :
    skipFrom grammar.comments text p.offset = skipFrom grammar.comments text next.offset := by
  refine h.node_induction (motive := fun name p tree next => grammar.isNonterminal name = true →
    tree.fault = none → tree.children = [] → p.At text →
    skipFrom grammar.comments text p.offset = skipFrom grammar.comments text next.offset)
    ?unterminated ?matched ?unmatched ?barren ?spelled hname hfault hchildren hp
  case unterminated =>
    intro name p opening _ _ hfault
    cases hfault
  case matched =>
    intro name p q pattern n _ hget _ _ hname
    rw [isNonterminal, Rules.contains, hget] at hname
    cases hname
  case unmatched =>
    intro name p q pattern _ _ _ _ _ hfault
    cases hfault
  case barren =>
    intro name p q _ _ _ hfault
    cases hfault
  case spelled =>
    intro name p q expansions expansion attempt hskip _ _ hspells _ _ hchildren hp
    have hq : q.At text := hp.of_le (le_of_skip_ok hskip)
    rw [(hspells.of_children_nil hchildren).1, skipFrom_of_skip_ok hp hskip,
      skipFrom_of_skip_ok hq (skip_of_skip_ok hskip)]

/-- **The leaves below a nonterminal that has matched**, with the node itself left out if it has
read nothing. -/
theorem Matches.tiles_children {name : String} {p next : Place} {tree : Tree}
    (h : grammar.Matches name p tree next) (hname : grammar.isNonterminal name = true)
    (hfault : tree.fault = none) (hp : p.At text) :
    ∃ reached, Tiles grammar.comments text p.offset (tree.children.flatMap Tree.leaves) reached ∧
      skipFrom grammar.comments text reached = skipFrom grammar.comments text next.offset := by
  by_cases hchildren : tree.children = []
  · -- There is no leaf below the node, so nothing has been reached yet.
    rw [hchildren]
    exact ⟨p.offset, .nil _, h.skipFrom_eq_of_children_nil hname hfault hchildren hp⟩
  · rw [← Tree.leaves_of_children_ne_nil hchildren]
    exact ⟨next.offset, h.tiles hp, rfl⟩

/-! ### Parses -/

section

variable {name : String} {p place : Place} {root : Tree}
  (h : grammar.Matches name p root place) (hname : grammar.isNonterminal name = true)
  (hfault : root.fault = none) (hp : p.At text)

include h hname hfault hp

/-- A root that has matched, with a failure behind it. -/
theorem Matches.tiles_leave {behind : Place} {fault : Fault}
    (hbehind : Tiles grammar.comments text place.offset [.failed "" behind.offset fault]
      behind.offset) :
    Tiles grammar.comments text p.offset (finish.leave root behind fault).leaves behind.offset := by
  obtain ⟨reached, hrow, hreached⟩ := h.tiles_children hname hfault hp
  rw [leaves_leave]
  refine hrow.append (fun leaf hleaf => ?_)
    (hbehind.of_skipFrom_eq (List.cons_ne_nil _ _) hreached)
  obtain ⟨child, hchild, hleaf⟩ := List.mem_flatMap.1 hleaf
  have hclean := (Tree.hasFault_eq_false.1 (h.fails.1 hfault)).2 child hchild
  exact Tree.fault_eq_none_of_mem_leaves hclean hleaf

omit hname in
/-- A root that has matched, extended over what is skipped behind it. -/
theorem Matches.tiles_withStop {next : Place} (hskip : skip grammar.comments place = .ok next) :
    ∃ stop, Tiles grammar.comments text p.offset ({ root with stop := next.offset } : Tree).leaves
      stop ∧ skipFrom grammar.comments text stop = .ok next.offset := by
  have hplace : place.At text := hp.of_le h.le.1
  have htiles := h.tiles hp
  by_cases hchildren : root.children = []
  · -- The root is the only leaf. It ends where skipping does, so skipping does not lead further.
    have hnext : next.At text := hplace.of_le (le_of_skip_ok hskip)
    have hstable := skipFrom_of_skip_ok hnext (skip_of_skip_ok hskip)
    have hleaves : ({ root with stop := next.offset } : Tree).leaves =
        [{ root with stop := next.offset }] := Tree.leaves_of_children_nil hchildren
    have hclosed : root.fault ≠ some .unterminatedComment := by
      rw [hfault]
      nofun
    rw [Tree.leaves_of_children_nil hchildren] at htiles
    rw [hleaves]
    exact ⟨next.offset, .leaf hclosed (htiles.head hclosed), hstable⟩
  · have hleaves : ({ root with stop := next.offset } : Tree).leaves =
        root.children.flatMap Tree.leaves := Tree.leaves_of_children_ne_nil hchildren
    rw [Tree.leaves_of_children_ne_nil hchildren] at htiles
    rw [hleaves]
    exact ⟨place.offset, htiles, skipFrom_of_skip_ok hplace hskip⟩

end

/-- **The leaves of a parse tile the text** up to some offset, behind which there is only what may
be skipped if there is no fault. -/
theorem exists_tiles {source symbol : String} {tree : Tree}
    (h : grammar.parse source symbol = .ok tree) :
    ∃ stop, Tiles grammar.comments source.toList 0 tree.leaves stop ∧
      (tree.hasFault = false → skipFrom grammar.comments source.toList stop =
        .ok (Text.byteLength source.toList)) := by
  have hsymbol := (parse_eq_ok_iff.1 h).1
  obtain ⟨root, place, hmatch, hends⟩ := exists_of_parse_eq_ok h
  have hbegin : (Place.begin source.toList).At source.toList := Place.at_begin source.toList
  have hplace : place.At source.toList := hbegin.of_le hmatch.le.1
  cases hends with
  | failed hfault =>
    refine ⟨place.offset, hmatch.tiles hbegin, fun hnone => ?_⟩
    exact absurd (Tree.hasFault_eq_false.1 hnone).1 hfault
  | whole hfault hskip hrest =>
    have hnext := hplace.of_le (le_of_skip_ok hskip)
    obtain ⟨stop, htiles, hstop⟩ := hmatch.tiles_withStop hfault hbegin hskip
    refine ⟨stop, htiles, fun _ => ?_⟩
    rw [hstop, hnext.offset_of_rest_nil hrest]
  | @left next hfault hskip _ =>
    have hbehind : Tiles grammar.comments source.toList place.offset
        [.failed "" next.offset (.unparsableAfter symbol)] next.offset :=
      .leaf nofun (skipFrom_of_skip_ok hplace hskip)
    refine ⟨next.offset, hmatch.tiles_leave hsymbol hfault hbegin hbehind, fun hnone => ?_⟩
    rw [hasFault_leave] at hnone
    cases hnone
  | @unclosed opening hfault hskip =>
    have hbehind : Tiles grammar.comments source.toList place.offset
        [.failed "" opening.offset .unterminatedComment] opening.offset :=
      .unclosed rfl (skipFrom_of_skip_error hplace hskip)
    refine ⟨opening.offset, hmatch.tiles_leave hsymbol hfault hbegin hbehind, fun hnone => ?_⟩
    rw [hasFault_leave] at hnone
    cases hnone

/-- **The leaves of a parse tile the source text.** Skipping leads from the beginning of the text
to the first leaf and from each leaf to the next one; if there is no fault it leads from the last
leaf to the end, and the leaves with what lies between them are the text. -/
theorem leaves_tile_source {source symbol : String} {tree : Tree}
    (h : grammar.parse source symbol = .ok tree) :
    ∃ last, tree.leaves.getLast? = some last ∧
      Tiles grammar.comments source.toList 0 tree.leaves last.stop ∧
      (tree.hasFault = false →
        skipFrom grammar.comments source.toList last.stop =
            .ok (Text.byteLength source.toList) ∧
          woven source 0 tree.leaves = source.toList) := by
  obtain ⟨stop, htiles, hend⟩ := exists_tiles h
  obtain ⟨last, hlast⟩ : ∃ last, tree.leaves.getLast? = some last :=
    Option.isSome_iff_exists.1 (List.getLast?_isSome.2 tree.leaves_ne_nil)
  obtain rfl := htiles.stop_eq hlast
  refine ⟨last, hlast, htiles, fun hfault => ⟨hend hfault, ?_⟩⟩
  obtain ⟨root, place, hmatch, hends⟩ := exists_of_parse_eq_ok h
  have hnested := hends.spansNested hmatch (Place.at_begin source.toList)
  -- Without a fault every leaf counts, and each covers its part of the text.
  have hwoven := woven_of_tiles htiles (Text.isBoundary_zero _) fun leaf hleaf =>
    ⟨Tree.fault_eq_none_of_mem_leaves hfault hleaf,
      hnested.covers leaf (Tree.mem_nodes_of_mem_leaves hleaf)⟩
  rw [hwoven, dropBytes_zero]

end

/-- The tree of a row of two words, which ends with an empty row. -/
def commentedRow : Tree :=
  ⟨"Row", 0, 11, [⟨"Word", 0, 1, [⟨"a", 0, 1, [], none⟩], none⟩,
    ⟨"Row", 9, 11, [⟨"Word", 9, 10, [⟨"b", 9, 10, [], none⟩], none⟩, ⟨"Row", 11, 11, [], none⟩],
      none⟩], none⟩

theorem leaves_tile_source_commentedRow :
    rows.parse "a /*é*/ b " "Row" = .ok commentedRow ∧ commentedRow.hasFault = false ∧
      ∃ last, commentedRow.leaves.getLast? = some last ∧
        Tiles rows.comments "a /*é*/ b ".toList 0 commentedRow.leaves last.stop ∧
        woven "a /*é*/ b " 0 commentedRow.leaves = "a /*é*/ b ".toList := by
  have hparse : rows.parse "a /*é*/ b " "Row" = .ok commentedRow := by cbv
  have hfault : commentedRow.hasFault = false := by cbv
  obtain ⟨last, hlast, htiles, hwhole⟩ := leaves_tile_source hparse
  exact ⟨hparse, hfault, last, hlast, htiles, (hwhole hfault).2⟩

end Grammar

end OrderedChoice
