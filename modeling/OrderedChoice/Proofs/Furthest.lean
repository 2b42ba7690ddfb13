import OrderedChoice.Proofs.Subtrees

/-!
# Which attempt a node shows

A nonterminal tries its expansions in order and keeps one of the attempts. If an expansion matches,
the node has the children of the first one that does. If none matches, the node has the children
and the fault of the attempt that came furthest, and of the first one of those that came equally
far: an attempt replaces the best one so far only if it came strictly further.

A tree does not tell where its nodes were tried. But every node is what matching its symbol gives
where the node begins (`Grammar.Matches.of_mem_nodes`), so the expansions can be tried again there,
and what they give is compared with the node.

* `Grammar.Tries` is trying an expansion at an offset, by itself.
* `Chooses.furthest`: what a choice keeps, if no expansion matches.
* `Grammar.Reproduced.exists_chooses`: a node is what a choice at its beginning has kept.
* `Grammar.node_shows_furthest_or_first`: so it is for every node of a parse.
-/

namespace OrderedChoice

/-! ### The better one of two attempts -/

theorem Attempt.further_some (best attempt : Attempt) :
    attempt.further (some best) =
      if best.place.offset < attempt.place.offset then attempt else best := rfl

/-- An attempt that came no further than the best one so far does not replace it. -/
theorem Attempt.further_of_le {best attempt : Attempt}
    (h : attempt.place.offset ≤ best.place.offset) : attempt.further (some best) = best := by
  rw [further_some, if_neg (Nat.not_lt.2 h)]

/-- The better one of two attempts came as far as the new one. -/
theorem Attempt.le_further (best : Option Attempt) (attempt : Attempt) :
    attempt.place.offset ≤ (attempt.further best).place.offset := by
  cases best with
  | none => exact Nat.le_refl _
  | some best =>
    rw [further_some]
    split
    · exact Nat.le_refl _
    · next hnot => exact Nat.le_of_not_lt hnot

/-- It came as far as the best one so far. -/
theorem Attempt.le_further_best (best attempt : Attempt) :
    best.place.offset ≤ (attempt.further (some best)).place.offset := by
  rw [further_some]
  split
  · next hlt => exact Nat.le_of_lt hlt
  · exact Nat.le_refl _

/-! ### What a choice keeps -/

/-- **An expansion falls short** of an offset: some symbol of it does not match, and it does not
come as far as that offset. -/
def FallsShort (R : Reading) (p : Place) (stop : Nat) (expansion : Expansion) : Prop :=
  ∃ attempt, Spells R expansion.symbols p attempt ∧ attempt.fault ≠ none ∧
    attempt.place.offset < stop

/-- **An attempt is the furthest of expansions that all fail**, and the first of those that came as
far: the expansions in front fall short of where it came, and those behind do not come further. -/
def IsFurthest (R : Reading) (p : Place) (expansions : List Expansion) (attempt : Attempt) : Prop :=
  ∃ before expansion after, expansions = before ++ expansion :: after ∧
    (∀ earlier ∈ before, FallsShort R p attempt.place.offset earlier) ∧
    Spells R expansion.symbols p attempt ∧ attempt.fault ≠ none ∧
    (∀ later ∈ after, FallsShort R p (attempt.place.offset + 1) later)

/-- **What a choice keeps if no expansion matches**: the best attempt from before, if no expansion
comes further, and otherwise the furthest one, which came further than the best one from before. -/
theorem Chooses.furthest {R : Reading} {p : Place} {best chosen : Option Attempt}
    {attempt : Attempt} {expansions : List Expansion} (h : Chooses R p best expansions chosen)
    (hchosen : chosen = some attempt) (hfault : attempt.fault ≠ none) :
    (best = some attempt ∧
      ∀ expansion ∈ expansions, FallsShort R p (attempt.place.offset + 1) expansion) ∨
    (IsFurthest R p expansions attempt ∧
      ∀ other, best = some other → other.place.offset < attempt.place.offset) := by
  -- The induction is along the expansions; the best attempt so far changes on the way.
  induction h with
  | done best =>
    exact .inl ⟨hchosen, fun expansion hmem => absurd hmem List.not_mem_nil⟩
  | found best expansions _ hclean =>
    -- An attempt without a fault is not what is kept here.
    obtain rfl := Option.some.inj hchosen
    exact absurd hclean hfault
  | @later expansion expansions tried best chosen hspells hmiss _ ih =>
    have htried := Attempt.le_further best tried
    rcases ih hchosen with ⟨hkept, hrest⟩ | ⟨⟨before, found, after, rfl, hbefore, hfound⟩, hless⟩
    · have hkept := Option.some.inj hkept
      rw [hkept] at htried
      have hshort : FallsShort R p (attempt.place.offset + 1) expansion :=
        ⟨tried, hspells, hmiss, Nat.lt_succ_of_le htried⟩
      cases best with
      | none =>
        -- There was no attempt before this one, so this is the one that is kept.
        obtain rfl : tried = attempt := hkept
        exact .inr ⟨⟨[], expansion, expansions, rfl,
          fun earlier hmem => absurd hmem List.not_mem_nil, hspells, hmiss, hrest⟩, nofun⟩
      | some best =>
        by_cases hlt : best.place.offset < tried.place.offset
        · -- This attempt came strictly further and replaces the best one so far.
          obtain rfl : tried = attempt := (if_pos hlt).symm.trans hkept
          refine .inr ⟨⟨[], expansion, expansions, rfl,
            fun earlier hmem => absurd hmem List.not_mem_nil, hspells, hmiss, hrest⟩, ?_⟩
          intro other hother
          rw [← Option.some.inj hother]
          exact hlt
        · -- The best one so far stays, also if this one came equally far.
          obtain rfl : best = attempt := (if_neg hlt).symm.trans hkept
          refine .inl ⟨rfl, fun other hmem => ?_⟩
          rcases List.mem_cons.1 hmem with rfl | hmem
          · exact hshort
          · exact hrest other hmem
    · -- A later expansion came further than all so far, this one included.
      have hbetter := hless _ rfl
      refine .inr ⟨⟨expansion :: before, found, after, rfl, fun earlier hmem => ?_, hfound⟩, ?_⟩
      · rcases List.mem_cons.1 hmem with rfl | hmem
        · exact ⟨tried, hspells, hmiss, Nat.lt_of_le_of_lt htried hbetter⟩
        · exact hbefore earlier hmem
      · rintro other rfl
        exact Nat.lt_of_le_of_lt (Attempt.le_further_best other tried) hbetter

/-- A choice from nothing keeps the furthest attempt, if no expansion matches. -/
theorem Chooses.isFurthest {R : Reading} {p : Place} {attempt : Attempt}
    {expansions : List Expansion} (h : Chooses R p none expansions (some attempt))
    (hfault : attempt.fault ≠ none) : IsFurthest R p expansions attempt := by
  rcases h.furthest rfl hfault with ⟨hnone, -⟩ | ⟨hfurthest, -⟩
  · cases hnone
  · exact hfurthest

namespace Grammar

section

variable [PatternEngine] {grammar : Grammar} {text : List Char}

/-! ### Trying an expansion -/

/-- **Trying an expansion at an offset of a text returns an attempt**, if symbols may be nested as
deeply as they like. The symbols go by their numbers in the table. -/
def Tries (grammar : Grammar) (text : List Char) (expansion : Expansion) (offset : Nat)
    (attempt : Attempt) : Prop :=
  ∃ bound, matchSequence (grammar.matchAt bound)
    (expansion.symbols.map (Table.names grammar.rules).idxOf) (.ofOffset text offset) = some attempt

/-- Trying an expansion of the grammar is matching its symbols one after another. -/
theorem tries_iff {name : String} {expansions : List Expansion} {expansion : Expansion}
    {offset : Nat} {attempt : Attempt} (hget : grammar.rules.get? name = some expansions)
    (hmem : expansion ∈ expansions) :
    grammar.Tries text expansion offset attempt ↔
      Spells grammar.Matches expansion.symbols (.ofOffset text offset) attempt := by
  -- The table does not show, to any depth.
  have hnames : ∀ bound, matchSequence (grammar.matchAt bound)
      (expansion.symbols.map (Table.names grammar.rules).idxOf) (.ofOffset text offset) =
        matchSequence (grammar.matchName bound) expansion.symbols (.ofOffset text offset) := by
    intro bound
    refine matchSequence_map (fun symbol hsymbol p => ?_) _
    exact matchAt_eq_matchName grammar bound (Table.mem_names_of_mem_symbols hget hmem hsymbol) p
  simp only [Tries, hnames, matchSequence_eq_some_iff]
  constructor
  · rintro ⟨bound, hspells⟩
    exact hspells.mono fun _ _ _ _ hstep => ⟨bound, hstep⟩
  · exact exists_bound_of_spells

/-! ### Nodes -/

/-- The choice that was made for a nonterminal. -/
theorem Matches.exists_chooses {name : String} {p q next : Place} {tree : Tree}
    {expansions : List Expansion} (h : grammar.Matches name p tree next)
    (hskip : skip grammar.comments p = .ok q)
    (hget : grammar.rules.get? name = some expansions) :
    ∃ chosen, Chooses grammar.Matches q none expansions chosen ∧
      nodeOf name q chosen = (tree, next) := by
  obtain ⟨bound, h⟩ := h
  cases bound with
  | zero => cases h
  | succ bound =>
    obtain ⟨chosen, hchooses, hnode⟩ := (matchName_succ_nonterminal hskip hget).1 h
    exact ⟨chosen, hchooses.mono fun _ _ _ _ hstep => ⟨bound, hstep⟩, hnode⟩

/-- **A node of a nonterminal is what a choice where it begins has kept**, unless it is a leaf that
has failed. -/
theorem Reproduced.exists_chooses {node : Tree} {expansions : List Expansion}
    (h : grammar.Reproduced text node)
    (hget : grammar.rules.get? node.symbol = some expansions)
    (hnode : ¬ (node.children = [] ∧ node.fault ≠ none)) :
    ∃ attempt, Chooses grammar.Matches (.ofOffset text node.start) none expansions (some attempt) ∧
      attempt.place.offset = node.stop ∧ attempt.children = node.children ∧
      attempt.fault = node.fault := by
  obtain ⟨hstart, next, hmatch⟩ := h
  have hplace : (Place.ofOffset text node.start).At text := Place.at_ofOffset hstart
  cases hskip : skip grammar.comments (.ofOffset text node.start) with
  | error opening =>
    -- Behind a comment that is not closed nothing is tried.
    obtain ⟨hfailed, -⟩ := hmatch.unique (.unterminated node.symbol hskip)
    rw [hfailed] at hnode
    exact absurd ⟨rfl, nofun⟩ hnode
  | ok q =>
    -- The node begins where skipping has ended, so the expansions were tried there.
    have hoffset : node.start = q.offset := by
      have hstart := hmatch.start_eq
      rwa [hskip] at hstart
    have hq : q = .ofOffset text node.start := by
      rw [hoffset]
      exact (hplace.of_le (le_of_skip_ok hskip)).eq_ofOffset
    obtain ⟨chosen, hchooses, hresult⟩ := hmatch.exists_chooses hskip hget
    rw [← hq]
    cases chosen with
    | none =>
      rw [← (Prod.mk.inj hresult).1] at hnode
      exact absurd ⟨rfl, nofun⟩ hnode
    | some attempt =>
      refine ⟨attempt, hchooses, ?_⟩
      rw [← (Prod.mk.inj hresult).1]
      exact ⟨rfl, rfl, rfl⟩

/-- **A node shows the furthest failure** of its expansions. -/
structure ShowsFurthest (grammar : Grammar) (text : List Char) (expansions : List Expansion)
    (node : Tree) : Prop where
  /-- Every expansion fails where the node begins, and none comes further than the node does. -/
  fail : ∀ expansion ∈ expansions, ∃ attempt, grammar.Tries text expansion node.start attempt ∧
    attempt.fault ≠ none ∧ attempt.place.offset ≤ node.stop
  /-- The node has the children and the fault of the first expansion that comes as far as it
  does. -/
  first : ∃ before expansion after attempt, expansions = before ++ expansion :: after ∧
    grammar.Tries text expansion node.start attempt ∧ attempt.place.offset = node.stop ∧
    attempt.children = node.children ∧ attempt.fault = node.fault ∧
    ∀ earlier ∈ before, ∃ other, grammar.Tries text earlier node.start other ∧
      other.place.offset < node.stop

/-- **Children are those of the first expansion that matches** from an offset on, and end at
another one. -/
def AreFirstMatch (grammar : Grammar) (text : List Char) (expansions : List Expansion)
    (start stop : Nat) (children : List Tree) : Prop :=
  ∃ before expansion after attempt, expansions = before ++ expansion :: after ∧
    (∀ earlier ∈ before, ∃ other, grammar.Tries text earlier start other ∧ other.fault ≠ none) ∧
    grammar.Tries text expansion start attempt ∧ attempt.fault = none ∧
    attempt.place.offset = stop ∧ attempt.children = children

/-- **A node that has failed with children shows the furthest failure.** -/
theorem Reproduced.showsFurthest {node : Tree} {expansions : List Expansion}
    (h : grammar.Reproduced text node)
    (hget : grammar.rules.get? node.symbol = some expansions) (hfault : node.fault ≠ none)
    (hchildren : node.children ≠ []) : grammar.ShowsFurthest text expansions node := by
  obtain ⟨attempt, hchooses, hstop, hsame, hsameFault⟩ :=
    h.exists_chooses hget fun hhalt => hchildren hhalt.1
  rw [← hsameFault] at hfault
  obtain ⟨before, expansion, after, rfl, hbefore, hspells, -, hafter⟩ := hchooses.isFurthest hfault
  -- What falls short at the node's beginning is tried there, and comes less far.
  have htries : ∀ {other stop}, other ∈ before ++ expansion :: after →
      FallsShort grammar.Matches (.ofOffset text node.start) stop other →
      ∃ tried, grammar.Tries text other node.start tried ∧ tried.fault ≠ none ∧
        tried.place.offset < stop := by
    rintro other stop hmem ⟨tried, htried, hmiss, hless⟩
    exact ⟨tried, (tries_iff hget hmem).2 htried, hmiss, hless⟩
  have hmem : expansion ∈ before ++ expansion :: after :=
    List.mem_append_right _ List.mem_cons_self
  have hkept : grammar.Tries text expansion node.start attempt := (tries_iff hget hmem).2 hspells
  rw [hstop] at hbefore hafter
  refine ⟨fun other hother => ?_, before, expansion, after, attempt, rfl, hkept, hstop, hsame,
    hsameFault, fun earlier hearlier => ?_⟩
  · rcases List.mem_append.1 hother with hearlier | hlater
    · obtain ⟨tried, htried, hmiss, hless⟩ := htries hother (hbefore other hearlier)
      exact ⟨tried, htried, hmiss, Nat.le_of_lt hless⟩
    · rcases List.mem_cons.1 hlater with rfl | hlater
      · exact ⟨attempt, hkept, hfault, Nat.le_of_eq hstop⟩
      · obtain ⟨tried, htried, hmiss, hless⟩ := htries hother (hafter other hlater)
        exact ⟨tried, htried, hmiss, Nat.le_of_lt_succ hless⟩
  · obtain ⟨tried, htried, -, hless⟩ :=
      htries (List.mem_append_left _ hearlier) (hbefore earlier hearlier)
    exact ⟨tried, htried, hless⟩

/-- **A node that has matched has the children of the first expansion that matches.** -/
theorem Reproduced.areFirstMatch {node : Tree} {expansions : List Expansion}
    (h : grammar.Reproduced text node)
    (hget : grammar.rules.get? node.symbol = some expansions) (hfault : node.fault = none) :
    grammar.AreFirstMatch text expansions node.start node.stop node.children := by
  obtain ⟨attempt, hchooses, hstop, hsame, hsameFault⟩ :=
    h.exists_chooses hget fun hhalt => hhalt.2 hfault
  rw [hfault] at hsameFault
  rcases hchooses.found_or_misses missed_none with
    ⟨before, expansion, after, found, rfl, hbefore, hspells, -, hfound⟩ | ⟨-, hmissed⟩
  · obtain rfl := Option.some.inj hfound
    refine ⟨before, expansion, after, attempt, rfl, fun earlier hearlier => ?_, ?_, hsameFault,
      hstop, hsame⟩
    · obtain ⟨tried, htried, hmiss⟩ := hbefore earlier hearlier
      exact ⟨tried, (tries_iff hget (List.mem_append_left _ hearlier)).2 htried, hmiss⟩
    · exact (tries_iff hget (List.mem_append_right _ List.mem_cons_self)).2 hspells
  · exact absurd hsameFault (hmissed attempt rfl)

/-! ### Parses -/

/-- However a parse ends, a node below its root is reproduced, unless it reports what is left
over. -/
theorem Ends.reproduced {symbol : String} {root tree child node : Tree} {p place : Place}
    (h : Ends grammar symbol root place tree) (hmatch : grammar.Matches symbol p root place)
    (hp : p.At text) (hchild : child ∈ tree.children) (hnode : node ∈ child.nodes) :
    grammar.Reproduced text node ∨ ∃ stop fault, node = .failed "" stop fault := by
  rcases h.mem_children hchild with hbelow | ⟨stop, fault, rfl⟩
  · exact .inl (hmatch.of_mem_nodes hp (Tree.mem_nodes.2 (.inr ⟨child, hbelow, hnode⟩)))
  · exact .inr ⟨stop, fault, List.mem_singleton.1 hnode⟩

/-- A root that has failed stays as it was matched. -/
theorem Ends.eq_root {symbol : String} {root tree : Tree} {place : Place}
    (h : Ends grammar symbol root place tree) (hfault : root.fault ≠ none) : tree = root := by
  cases h with
  | failed _ => rfl
  | whole hclean _ _ => exact absurd hclean hfault
  | left hclean _ _ => exact absurd hclean hfault
  | unclosed hclean _ => exact absurd hclean hfault

/-- Without what is left over, a root that has matched differs from the node of its symbol only in
that it ends where the skipping behind that node does. -/
theorem Ends.withoutTrailing_eq {symbol : String} {root tree : Tree} {place : Place}
    (h : Ends grammar symbol root place tree) (hclean : root.fault = none)
    (hroot : root.hasFault = false) :
    tree.withoutTrailing =
      { root with stop := (skipEnd (skip grammar.comments place)).offset } := by
  cases h with
  | failed hfault => exact absurd hclean hfault
  | whole _ hskip _ =>
    rw [Tree.withoutTrailing_of_hasFault (by rw [Tree.hasFault_withStop, hroot]), hskip]
    rfl
  | left _ hskip _ =>
    rw [withoutTrailing_leave hclean, hskip]
    rfl
  | unclosed _ hskip =>
    rw [withoutTrailing_leave hclean, hskip]
    rfl

/-- **Every node shows the furthest failure or the first match.** Let a node of a parse have the
name of a nonterminal. If it has failed and has children, every expansion fails where the node
begins, the node ends where the furthest of them came, and it has the children and the fault of the
first expansion that came so far. If it has matched, its children are those of the first expansion
that matches where it begins, and it ends where they do; only the root ends behind what may be
skipped there, and what it reports as left over is none of its children. -/
theorem node_shows_furthest_or_first {source symbol : String} {tree : Tree}
    (h : grammar.parse source symbol = .ok tree) :
    (∀ node ∈ tree.nodes, node.fault ≠ none → node.children ≠ [] →
      ∀ expansions, grammar.rules.get? node.symbol = some expansions →
        grammar.ShowsFurthest source.toList expansions node) ∧
    (∀ node ∈ tree.withoutTrailing.nodes, node.fault = none →
      ∀ expansions, grammar.rules.get? node.symbol = some expansions →
        ∃ stop, grammar.AreFirstMatch source.toList expansions node.start stop node.children ∧
          (stop = node.stop ∨ node = tree.withoutTrailing ∧
            (skipEnd (skip grammar.comments (.ofOffset source.toList stop))).offset =
              node.stop)) := by
  obtain ⟨root, place, hmatch, hends⟩ := exists_of_parse_eq_ok h
  have hbegin : (Place.begin source.toList).At source.toList := Place.at_begin source.toList
  refine ⟨fun node hnode hfault hchildren expansions hget => ?_,
    fun node hnode hfault expansions hget => ?_⟩
  · rcases Tree.mem_nodes.1 hnode with rfl | ⟨child, hchild, hnode⟩
    · have hsame : node = root := hends.eq_root (hends.fault_eq ▸ hfault)
      rw [hsame] at hget hfault hchildren ⊢
      exact (hmatch.reproduced hbegin).showsFurthest hget hfault hchildren
    · rcases hends.reproduced hmatch hbegin hchild hnode with hreproduced | ⟨stop, fault, rfl⟩
      · exact hreproduced.showsFurthest hget hfault hchildren
      · exact absurd rfl hchildren
  · by_cases hclean : root.fault = none
    · obtain ⟨hle, hstop⟩ := hmatch.le
      have hplace : place = .ofOffset source.toList root.stop := by
        rw [hstop]
        exact (hbegin.of_le hle).eq_ofOffset
      have hwithout := hends.withoutTrailing_eq hclean (hmatch.fails.1 hclean)
      rw [hwithout] at hnode ⊢
      rcases Tree.mem_nodes.1 hnode with rfl | ⟨child, hchild, hnode⟩
      · -- The root has been extended, from where the node of its symbol ended.
        refine ⟨root.stop, (hmatch.reproduced hbegin).areFirstMatch hget hclean, .inr ⟨rfl, ?_⟩⟩
        rw [← hplace]
      · have hbelow : node ∈ root.nodes := Tree.mem_nodes.2 (.inr ⟨child, hchild, hnode⟩)
        exact ⟨node.stop, (hmatch.of_mem_nodes hbegin hbelow).areFirstMatch hget hfault, .inl rfl⟩
    · -- If the root has failed, the tree is as it was matched.
      have hsame : tree.withoutTrailing = root := by
        rw [Tree.withoutTrailing_of_fault (by rwa [hends.fault_eq])]
        exact hends.eq_root hclean
      rw [hsame] at hnode
      exact ⟨node.stop, (hmatch.of_mem_nodes hbegin hnode).areFirstMatch hget hfault, .inl rfl⟩

end

/-! ### A failure with a tie -/

/-- The expansions of a verse, of which two come equally far in front of a letter that is in none
of them. -/
def verseExpansions : List Expansion :=
  [⟨["x"]⟩, ⟨["Foot", "b", "c"]⟩, ⟨["a", "b", "d"]⟩, ⟨["a", "d"]⟩]

/-- The rules of verses. -/
def verseRules : Rules where
  entries := [("Foot", [⟨["b"]⟩, ⟨["a"]⟩]), ("Verse", verseExpansions)]
  ordered := by decide
  named := by simp

/-- **Verses**, without comments. -/
def verses : Grammar where
  rules := verseRules
  start := none
  comments := []
  table := (Table.ofRules verseRules).toOption.getD ⟨#[]⟩
  start_mem := nofun
  table_eq := by cbv

/-- The foot that a verse begins with. -/
def foot : Tree := ⟨"Foot", 0, 1, [⟨"a", 0, 1, [], none⟩], none⟩

/-- The tree of a verse that breaks off. -/
def brokenVerse : Tree :=
  ⟨"Verse", 0, 4, [foot, ⟨"b", 2, 3, [], none⟩, .failed "c" 4 .noMatch], some .noMatch⟩

/-- The verse shows its second expansion, which came as far as its third; and its foot shows the
second expansion of a foot, the first one that matches. -/
theorem node_shows_furthest_or_first_brokenVerse :
    verses.parse "a b z" "Verse" = .ok brokenVerse ∧
      verses.ShowsFurthest "a b z".toList verseExpansions brokenVerse ∧
      verses.AreFirstMatch "a b z".toList [⟨["b"]⟩, ⟨["a"]⟩] 0 1 foot.children := by
  have hparse : verses.parse "a b z" "Verse" = .ok brokenVerse := by cbv
  have hfoot : foot ∈ brokenVerse.withoutTrailing.nodes := List.mem_cons_of_mem _ List.mem_cons_self
  obtain ⟨hfurthest, hfirst⟩ := node_shows_furthest_or_first hparse
  refine ⟨hparse, hfurthest _ (Tree.self_mem_nodes _) (Option.some_ne_none _)
    (List.cons_ne_nil _ _) _ rfl, ?_⟩
  obtain ⟨stop, hmatch, hstop | ⟨hroot, -⟩⟩ := hfirst foot hfoot rfl _ rfl
  · rw [hstop] at hmatch
    exact hmatch
  · -- The foot is not the root.
    have hname : "Foot" = "Verse" := congrArg Tree.symbol hroot
    exact absurd hname (by decide)

end Grammar

end OrderedChoice
