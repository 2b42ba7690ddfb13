import OrderedChoice.Proofs.Calls
import OrderedChoice.Proofs.DeadExpansions

/-!
# Expansions of which one fits at most

The first expansion that matches is chosen, so the order of the expansions counts. It does not if
they exclude each other: at every place of a text at most one of them matches. Then the expansions
can be put into another order, and what matches does so as before.

What fails need not fail as before. Of attempts that came equally far the first one is reported, and
which one that is depends on the order. But an attempt that has failed is never part of a node that
has matched, so that the difference does not show there: a match is upheld as it is, and a failure
is upheld as some failure. This is what `Grammar.Upholds` says and what the induction carries, since
the nonterminal may come up anywhere, also in its own expansions.

* `Grammar.ReturnsEverywhere` and `Grammar.Exclusive` are what is asked of a text.
* `Grammar.upholds_of_perm`: expansions in another order uphold every match and every failure.
* `Grammar.exclusive_expansions_commute`: so do parses.
-/

namespace OrderedChoice.Grammar

section

variable [PatternEngine] {grammar other : Grammar} {text : List Char}

/-! ### Texts on which matching ends -/

/-- **Matching ends everywhere in a text**: for every symbol of the table and from every
boundary. -/
def ReturnsEverywhere (grammar : Grammar) (text : List Char) : Prop :=
  ∀ name id offset, grammar.table.idOf? name = some id → Text.IsBoundary text offset →
    ∃ tree, grammar.Returns text id offset tree

theorem ReturnsEverywhere.exists_matches (h : grammar.ReturnsEverywhere text) {name : String}
    {p : Place} (hname : name ∈ Table.names grammar.rules) (hp : p.At text) :
    ∃ tree next, grammar.Matches name p tree next := by
  have hid := idOf?_eq_some_iff.2 ⟨hname, rfl⟩
  obtain ⟨tree, hreturns⟩ := h name _ p.offset hid hp.isBoundary
  obtain ⟨next, hmatch⟩ := (returns_iff hid).1 hreturns
  rw [← hp.eq_ofOffset] at hmatch
  exact ⟨tree, next, hmatch⟩

/-- Symbols one after another come to an end, too. -/
theorem ReturnsEverywhere.exists_spells (h : grammar.ReturnsEverywhere text) {names : List String}
    {p : Place} (hnames : ∀ name ∈ names, name ∈ Table.names grammar.rules) (hp : p.At text) :
    ∃ attempt, Spells grammar.Matches names p attempt := by
  induction names generalizing p with
  | nil => exact ⟨_, .nil p⟩
  | cons name names ih =>
    obtain ⟨child, next, hmatch⟩ := h.exists_matches (hnames name List.mem_cons_self) hp
    cases hfault : child.fault with
    | some fault => exact ⟨_, .fail names hmatch hfault⟩
    | none =>
      -- The rest is tried where the first symbol has ended, which is a place of the text again.
      obtain ⟨attempt, hspells⟩ := ih (fun other hother => hnames other
        (List.mem_cons_of_mem name hother)) (hp.of_le hmatch.le.1)
      exact ⟨_, .cons hmatch hfault hspells⟩

/-! ### Expansions that exclude each other -/

/-- **An expansion fits** at an offset of a text: all its symbols match, one after another. -/
def Fits (grammar : Grammar) (text : List Char) (offset : Nat) (expansion : Expansion) : Prop :=
  ∃ attempt, grammar.Tries text expansion offset attempt ∧ attempt.fault = none

/-- **Expansions exclude each other** in a text: at no boundary do two of them fit. The same
expansion may occur twice only if it does not fit anywhere. -/
def Exclusive (grammar : Grammar) (text : List Char) (expansions : List Expansion) : Prop :=
  ∀ offset, Text.IsBoundary text offset →
    expansions.Pairwise fun first second =>
      ¬ (grammar.Fits text offset first ∧ grammar.Fits text offset second)

/-- **In front of an expansion that fits all fail**, if the expansions exclude each other and
matching ends. -/
theorem Exclusive.misses {name : String} {before after : List Expansion} {expansion : Expansion}
    {p : Place} {attempt : Attempt}
    (h : grammar.Exclusive text (before ++ expansion :: after))
    (hreturns : grammar.ReturnsEverywhere text)
    (hget : grammar.rules.get? name = some (before ++ expansion :: after)) (hp : p.At text)
    (hspells : Spells grammar.Matches expansion.symbols p attempt) (hfault : attempt.fault = none) :
    ∀ earlier ∈ before, Misses grammar.Matches p earlier := by
  intro earlier hearlier
  have hmem : earlier ∈ before ++ expansion :: after := List.mem_append_left _ hearlier
  have hlast : expansion ∈ before ++ expansion :: after :=
    List.mem_append_right _ List.mem_cons_self
  obtain ⟨first, hfirst⟩ := hreturns.exists_spells
    (fun symbol => Table.mem_names_of_mem_symbols hget hmem) hp
  refine ⟨first, hfirst, fun hclean => ?_⟩
  -- Otherwise two expansions would fit.
  rw [hp.eq_ofOffset] at hfirst hspells
  have hpairs := (List.pairwise_append.1 (h p.offset hp.isBoundary)).2.2
  exact hpairs earlier hearlier expansion List.mem_cons_self
    ⟨⟨first, (tries_iff hget hmem).2 hfirst, hclean⟩,
      ⟨attempt, (tries_iff hget hlast).2 hspells, hfault⟩⟩

/-! ### Matches that are upheld -/

/-- **A grammar upholds a node** of a text: if the node has matched, the grammar matches it, too,
and if it has failed, the grammar fails there as well, whatever it reports. -/
def Upholds (other : Grammar) (text : List Char) : Reading := fun name p tree next =>
  p.At text → (tree.fault = none → other.Matches name p tree next) ∧
    (tree.fault ≠ none → ∃ tree' next', other.Matches name p tree' next' ∧ tree'.fault ≠ none)

/-- What is done symbol by symbol is upheld symbol by symbol. -/
theorem upholds_spells {names : List String} {p : Place} {attempt : Attempt}
    (h : Spells (fun name p tree next => grammar.Matches name p tree next ∧
      other.Upholds text name p tree next) names p attempt) (hp : p.At text) :
    (attempt.fault = none → Spells other.Matches names p attempt) ∧
      (attempt.fault ≠ none →
        ∃ attempt', Spells other.Matches names p attempt' ∧ attempt'.fault ≠ none) := by
  induction h with
  | nil p => exact ⟨fun _ => .nil p, fun hfault => absurd rfl hfault⟩
  | fail names hread hfault =>
    -- The symbol that fails may have another node in the other grammar, but one with a fault.
    refine ⟨nofun, fun _ => ?_⟩
    obtain ⟨child, next, hmatch, hchild⟩ := (hread.2 hp).2 (hfault ▸ Option.some_ne_none _)
    obtain ⟨fault, hchild⟩ := Option.ne_none_iff_exists'.1 hchild
    exact ⟨_, .fail names hmatch hchild, nofun⟩
  | cons hread hclean _ ih =>
    -- A symbol that matches is matched alike, so the rest is tried at the same place.
    have hmatch := (hread.2 hp).1 hclean
    obtain ⟨hmatched, hfailed⟩ := ih (hp.of_le hread.1.le.1)
    refine ⟨fun hfault => .cons hmatch hclean (hmatched hfault), fun hfault => ?_⟩
    obtain ⟨rest, hrest, hmiss⟩ := hfailed hfault
    exact ⟨_, .cons hmatch hclean hrest, hmiss⟩

/-- An expansion that fails is upheld as one that fails. -/
theorem upholds_misses {p : Place} {expansion : Expansion}
    (h : Misses (fun name p tree next => grammar.Matches name p tree next ∧
      other.Upholds text name p tree next) p expansion) (hp : p.At text) :
    Misses other.Matches p expansion := by
  obtain ⟨attempt, hspells, hfault⟩ := h
  exact (upholds_spells hspells hp).2 hfault

/-- A nonterminal all of whose expansions fail is upheld as one that fails. -/
theorem exists_failed_of_misses {name : String} {p q : Place} {expansions : List Expansion}
    (hskip : skip grammar.comments p = .ok q)
    (hget : grammar.rules.get? name = some expansions)
    (h : ∀ expansion ∈ expansions, Misses grammar.Matches q expansion) :
    ∃ tree next, grammar.Matches name p tree next ∧ tree.fault ≠ none := by
  obtain ⟨chosen, hchooses, hchosen⟩ := Chooses.of_misses h missed_none
  exact ⟨_, _, .nonterminal hskip hget hchooses,
    outcome_eq_none_iff.1 (outcome_nodeOf_of_missed hchosen)⟩

/-- **Expansions in another order uphold every node**, if they exclude each other and matching
ends. -/
theorem upholds_of_perm {permuted : Grammar} {name : String}
    {expansions expansions' : List Expansion}
    (hget : grammar.rules.get? name = some expansions) (hperm : expansions.Perm expansions')
    (hrules : permuted.rules = grammar.rules.withExpansions name expansions')
    (hcomments : permuted.comments = grammar.comments)
    (hreturns : permuted.ReturnsEverywhere text)
    (hexclusive : permuted.Exclusive text expansions')
    {symbol : String} {p next : Place} {tree : Tree} (h : grammar.Matches symbol p tree next) :
    permuted.Upholds text symbol p tree next := by
  have hself : permuted.rules.get? name = some expansions' := by
    rw [hrules, Rules.get?_withExpansions_self hget]
  have hothers : ∀ {symbol}, symbol ≠ name →
      permuted.rules.get? symbol = grammar.rules.get? symbol := by
    intro symbol hne
    rw [hrules, Rules.get?_withExpansions_of_ne hne]
  refine h.induction (motive := permuted.Upholds text) ?unterminated ?terminal ?nonterminal
  case unterminated =>
    intro symbol p opening hskip _
    rw [← hcomments] at hskip
    exact ⟨nofun, fun hfault => ⟨_, _, .unterminated symbol hskip, hfault⟩⟩
  case terminal =>
    intro symbol p q pattern hskip hnone hpattern _
    rw [← hcomments] at hskip
    -- A terminal has no expansions that could be put into another order.
    have hne : symbol ≠ name := by
      rintro rfl
      rw [hget] at hnone
      cases hnone
    rw [← hothers hne] at hnone
    have hmatch := Matches.terminal hskip hnone hpattern
    exact ⟨fun _ => hmatch, fun hfault => ⟨_, _, hmatch, hfault⟩⟩
  case nonterminal =>
    intro symbol p q found chosen hskip hfound hchooses hp
    have hq : q.At text := hp.of_le (le_of_skip_ok hskip)
    rw [← hcomments] at hskip
    rcases hchooses.found_or_misses missed_none with
      ⟨before, expansion, after, attempt, rfl, hbefore, hspells, hfault, rfl⟩ | ⟨hall, hchosen⟩
    · -- An expansion matches here, and it does so in the other order.
      have hspells := (upholds_spells hspells hq).1 hfault
      refine ⟨fun _ => ?_, fun hmiss => absurd hfault hmiss⟩
      by_cases hsymbol : symbol = name
      · subst hsymbol
        obtain rfl := Option.some.inj (hget.symm.trans hfound)
        have hmem : expansion ∈ expansions' :=
          hperm.mem_iff.1 (List.mem_append_right _ List.mem_cons_self)
        obtain ⟨before', after', rfl⟩ := List.append_of_mem hmem
        exact .nonterminal hskip hself (Chooses.of_found after'
          (hexclusive.misses hreturns hself hq hspells hfault) hspells hfault none)
      · rw [← hothers hsymbol] at hfound
        exact .nonterminal hskip hfound (Chooses.of_found after
          (fun earlier hearlier => upholds_misses (hbefore earlier hearlier) hq) hspells hfault
          none)
    · -- All expansions fail here, and which of them is reported does not matter.
      have hmissed : (nodeOf symbol q chosen).1.fault ≠ none :=
        outcome_eq_none_iff.1 (outcome_nodeOf_of_missed hchosen)
      refine ⟨fun hclean => absurd hclean hmissed, fun _ => ?_⟩
      by_cases hsymbol : symbol = name
      · subst hsymbol
        obtain rfl := Option.some.inj (hget.symm.trans hfound)
        exact exists_failed_of_misses hskip hself fun expansion hmem =>
          upholds_misses (hall expansion (hperm.mem_iff.2 hmem)) hq
      · rw [← hothers hsymbol] at hfound
        exact exists_failed_of_misses hskip hfound fun expansion hmem =>
          upholds_misses (hall expansion hmem) hq

/-! ### Parses -/

/-- **The order of expansions that exclude each other does not count for what parses.** Let two
grammars differ only in the order of the expansions of a nonterminal, let matching end everywhere in
a source under both, and let the expansions exclude each other there; it suffices to know this of
one of the grammars. Then both parse the source as every nonterminal. The roots have both matched or
both failed, and if they have matched, the trees are the same, with what is left over behind the
symbol. -/
theorem exclusive_expansions_commute {permuted : Grammar} {start : Option String}
    {name source : String} {expansions expansions' : List Expansion}
    (hget : grammar.rules.get? name = some expansions) (hperm : expansions.Perm expansions')
    (hbuild : build (grammar.rules.withExpansions name expansions') start grammar.comments =
      .ok permuted)
    (hreturns : grammar.ReturnsEverywhere source.toList)
    (hreturns' : permuted.ReturnsEverywhere source.toList)
    (hexclusive : permuted.Exclusive source.toList expansions')
    {symbol : String} (hsymbol : grammar.isNonterminal symbol = true) :
    ∃ tree tree', grammar.parse source symbol = .ok tree ∧
      permuted.parse source symbol = .ok tree' ∧ (tree.fault = none ↔ tree'.fault = none) ∧
      (tree.fault = none → tree' = tree) := by
  obtain ⟨hrules, -, hcomments⟩ := build_eq_ok_iff.1 hbuild
  have hsymbol' : permuted.isNonterminal symbol = true := by
    rw [isNonterminal, hrules, Rules.contains_withExpansions]
    exact hsymbol
  have hbegin : (Place.begin source.toList).At source.toList := Place.at_begin source.toList
  obtain ⟨root, place, hmatch⟩ :=
    hreturns.exists_matches (Table.mem_names_of_contains hsymbol) hbegin
  have hupholds := upholds_of_perm hget hperm hrules hcomments hreturns' hexclusive hmatch hbegin
  have hparse := parse_eq_ok_iff.2 ⟨hsymbol, root, place, hmatch, rfl⟩
  have hroot : (grammar.treeOf symbol root place).fault = root.fault :=
    (ends_treeOf symbol root place).fault_eq
  by_cases hfault : root.fault = none
  · -- The symbol matches alike, and how a parse ends depends on the comments only.
    have hparse' := parse_eq_ok_iff.2 ⟨hsymbol', root, place, hupholds.1 hfault, rfl⟩
    rw [treeOf_congr hcomments] at hparse'
    exact ⟨_, _, hparse, hparse', Iff.rfl, fun _ => rfl⟩
  · obtain ⟨root', place', hmatch', hfault'⟩ := hupholds.2 hfault
    have hparse' := parse_eq_ok_iff.2 ⟨hsymbol', root', place', hmatch', rfl⟩
    have hroot' : (permuted.treeOf symbol root' place').fault = root'.fault :=
      (ends_treeOf symbol root' place').fault_eq
    rw [← hroot] at hfault
    rw [← hroot'] at hfault'
    exact ⟨_, _, hparse, hparse', iff_of_false hfault hfault', fun hclean => absurd hclean hfault⟩

/-! ### Sums with their terms in another order -/

/-- **Matching ends everywhere** if it does so within one bound, from every place. -/
theorem returnsEverywhere_of_bound (bound : Nat)
    (h : ((Table.names grammar.rules).all fun name => (List.range (text.length + 1)).all fun n =>
      (grammar.matchName bound name ((Place.begin text).advance n)).isSome) = true) :
    grammar.ReturnsEverywhere text := by
  intro name id offset hid hoffset
  obtain ⟨hname, -⟩ := idOf?_eq_some_iff.1 hid
  obtain ⟨n, hn, hplace⟩ := (Place.at_ofOffset hoffset).exists_advance
  have hsome := List.all_eq_true.1 (List.all_eq_true.1 h name hname) n
    (List.mem_range.2 (Nat.lt_succ_of_le hn))
  rw [← hplace] at hsome
  obtain ⟨⟨tree, next⟩, hmatch⟩ := Option.isSome_iff_exists.1 hsome
  exact ⟨tree, (returns_iff hid).2 ⟨next, bound, hmatch⟩⟩

/-- An expansion is seen to fail within a bound. -/
def failsWithin (grammar : Grammar) (bound : Nat) (p : Place) (expansion : Expansion) : Bool :=
  (matchSequence (grammar.matchName bound) expansion.symbols p).any (·.fault.isSome)

theorem not_fits_of_failsWithin {name : String} {expansions : List Expansion}
    {expansion : Expansion} {bound offset : Nat}
    (hget : grammar.rules.get? name = some expansions) (hmem : expansion ∈ expansions)
    (h : grammar.failsWithin bound (.ofOffset text offset) expansion = true) :
    ¬ grammar.Fits text offset expansion := by
  rintro ⟨attempt, htries, hclean⟩
  unfold failsWithin at h
  cases hfailed : matchSequence (grammar.matchName bound) expansion.symbols
      (.ofOffset text offset) with
  | none =>
    rw [hfailed] at h
    cases h
  | some failed =>
    -- There is one attempt only, so it is the one that fits.
    have hspells : Spells grammar.Matches expansion.symbols (.ofOffset text offset) failed :=
      (matchSequence_eq_some_iff.1 hfailed).mono fun _ _ _ _ hstep => ⟨bound, hstep⟩
    obtain rfl := hspells.unique (functional_matches grammar) ((tries_iff hget hmem).1 htries)
    rw [hfailed, Option.any_some, hclean] at h
    cases h

/-- Two expansions exclude each other if one of them fails at every place. -/
theorem exclusive_pair {name : String} {first second : Expansion} (bound : Nat)
    (hget : grammar.rules.get? name = some [first, second])
    (h : ((List.range (text.length + 1)).all fun n =>
      grammar.failsWithin bound ((Place.begin text).advance n) first ||
        grammar.failsWithin bound ((Place.begin text).advance n) second) = true) :
    grammar.Exclusive text [first, second] := by
  intro offset hoffset
  obtain ⟨n, hn, hplace⟩ := (Place.at_ofOffset hoffset).exists_advance
  have hfails := List.all_eq_true.1 h n (List.mem_range.2 (Nat.lt_succ_of_le hn))
  rw [← hplace, Bool.or_eq_true] at hfails
  rw [List.pairwise_pair]
  rintro ⟨hfirst, hsecond⟩
  rcases hfails with hfails | hfails
  · exact not_fits_of_failsWithin hget List.mem_cons_self hfails hfirst
  · exact not_fits_of_failsWithin hget (List.mem_cons_of_mem _ List.mem_cons_self) hfails hsecond

end

/-- The expansions of a term in the other order: sums in brackets come first. -/
def turnedTerms : List Expansion := [⟨["o", "Sum", "c"]⟩, ⟨["a"]⟩]

/-- Sums whose terms are tried in the other order. -/
def turnedSums : Grammar where
  rules := sumRules.withExpansions "Term" turnedTerms
  start := some "Sum"
  comments := []
  table := (Table.ofRules (sumRules.withExpansions "Term" turnedTerms)).toOption.getD ⟨#[]⟩
  start_mem := by
    intro symbol h
    rw [← Option.some.inj h]
    rfl
  table_eq := by cbv

/-- The tree of a sum in brackets with a term behind it that belongs to nothing. -/
def sumAndMore : Tree :=
  ⟨"Sum", 0, 3, [⟨"Term", 0, 3, [⟨"o", 0, 1, [], none⟩,
    ⟨"Sum", 1, 2, [⟨"Term", 1, 2, [⟨"a", 1, 2, [], none⟩], none⟩], none⟩,
    ⟨"c", 2, 3, [], none⟩], none⟩, .failed "" 3 (.unparsableAfter "Sum")], none⟩

theorem exclusive_expansions_commute_turnedSums :
    sums.rules.get? "Term" = some [⟨["a"]⟩, ⟨["o", "Sum", "c"]⟩] ∧
      List.Perm [⟨["a"]⟩, ⟨["o", "Sum", "c"]⟩] turnedTerms ∧
      build (sumRules.withExpansions "Term" turnedTerms) (some "Sum") [] = .ok turnedSums ∧
      sums.ReturnsEverywhere "oaca".toList ∧ turnedSums.ReturnsEverywhere "oaca".toList ∧
      turnedSums.Exclusive "oaca".toList turnedTerms ∧
      sums.parse "oaca" "Sum" = .ok sumAndMore ∧
      turnedSums.parse "oaca" "Sum" = .ok sumAndMore := by
  have hget : sums.rules.get? "Term" = some [⟨["a"]⟩, ⟨["o", "Sum", "c"]⟩] := rfl
  have hperm : List.Perm [⟨["a"]⟩, ⟨["o", "Sum", "c"]⟩] turnedTerms := List.Perm.swap _ _ _
  have hbuild : build (sumRules.withExpansions "Term" turnedTerms) (some "Sum") [] =
      .ok turnedSums := build_eq_ok_iff.2 ⟨rfl, rfl, rfl⟩
  have hreturns : sums.ReturnsEverywhere "oaca".toList := returnsEverywhere_of_bound 5 (by cbv)
  have hreturns' : turnedSums.ReturnsEverywhere "oaca".toList :=
    returnsEverywhere_of_bound 5 (by cbv)
  have hexclusive : turnedSums.Exclusive "oaca".toList turnedTerms :=
    exclusive_pair 5 (Rules.get?_withExpansions_self hget) (by cbv)
  have hparse : sums.parse "oaca" "Sum" = .ok sumAndMore := by cbv
  obtain ⟨tree, tree', htree, htree', -, hsame⟩ :=
    exclusive_expansions_commute hget hperm hbuild hreturns hreturns' hexclusive
      (show sums.isNonterminal "Sum" = true from rfl)
  obtain rfl := Except.ok.inj (hparse.symm.trans htree)
  refine ⟨hget, hperm, hbuild, hreturns, hreturns', hexclusive, hparse, ?_⟩
  rw [htree', hsame rfl]

end OrderedChoice.Grammar
