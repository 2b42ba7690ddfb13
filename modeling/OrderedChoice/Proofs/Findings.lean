import OrderedChoice.Proofs.Check

/-!
# What the check reports is endless

The check of a grammar reports left-recursive and self-producing expansions. Each of them leads
back to its own nonterminal by way of first symbols, without anything in between that could take up
text: directly, or along a chain of nonterminals of which each has the next one as its only
expansion. So a report is never a false alarm. Where such an expansion is tried, the nonterminal is
called again at the same place, the expansions in front of it fail there again, and so on.

* `Rules.PassesOn` is one step of such a chain, and `Rules.passesOn_of_chainReaches` says that the
  walk along the chain finds only what is there.
* `Grammar.comesBack_of_finding`: at a place where nothing is skipped and all expansions in front
  fail, the nonterminal of a finding comes back to itself.
* `Grammar.findings_are_endless`: matching it there gives no result, to whatever depth.
-/

namespace OrderedChoice

namespace Rules

variable {rules : Rules}

/-! ### Chains of nonterminals -/

/-- **A nonterminal passes on to another one**, which is its only expansion. -/
def PassesOn (rules : Rules) (name other : String) : Prop :=
  rules.get? name = some [⟨[other]⟩] ∧ rules.contains other = true

theorem passThrough?_eq_some_iff {expansion : Expansion} {name : String} :
    rules.passThrough? expansion = some name ↔
      expansion = ⟨[name]⟩ ∧ rules.contains name = true := by
  obtain ⟨symbols⟩ := expansion
  rw [passThrough?]
  split
  · next symbol hsymbols =>
    obtain rfl : symbols = [symbol] := hsymbols
    simp only [Option.ite_none_right_eq_some, Option.some.injEq, Expansion.mk.injEq,
      List.cons.injEq, and_true]
    constructor
    · rintro ⟨hcontains, rfl⟩
      exact ⟨rfl, hcontains⟩
    · rintro ⟨rfl, hcontains⟩
      exact ⟨hcontains, rfl⟩
  · next hsymbols =>
    constructor
    · intro h
      cases h
    · rintro ⟨hexpansion, -⟩
      exact absurd (Expansion.mk.inj hexpansion) (hsymbols name)

theorem next?_eq_some_iff {name other : String} :
    rules.next? name = some other ↔ rules.PassesOn name other := by
  rw [next?, PassesOn]
  split
  · next expansion hget =>
    rw [passThrough?_eq_some_iff, hget]
    simp only [Option.some.injEq, List.cons.injEq, and_true]
  · next hget =>
    constructor
    · intro h
      cases h
    · rintro ⟨hget', -⟩
      exact absurd hget' (hget _)

/-- **The walk along a chain finds only what is there**: it comes to `origin` only if the chain
does. -/
theorem passesOn_of_chainReaches {origin current : String} {bound : Nat} {seen : List String}
    (h : rules.chainReaches origin bound seen (some current) = true) :
    Relation.ReflTransGen rules.PassesOn current origin := by
  induction bound generalizing seen current with
  | zero => cases h
  | succ bound ih =>
    rw [chainReaches] at h
    split at h
    · next horigin =>
      rw [horigin]
    · split at h
      · cases h
      · -- The walk goes on to the next nonterminal, which there has to be.
        cases hnext : rules.next? current with
        | none =>
          rw [hnext, chainReaches] at h
          cases h
        | some other =>
          rw [hnext] at h
          exact (ih h).head (next?_eq_some_iff.1 hnext)

end Rules

namespace Grammar

section

variable [PatternEngine] {grammar : Grammar}

/-! ### Findings lead back -/

/-- **A finding leads back to its nonterminal** from its first symbol, along a chain or at once. -/
theorem passesOn_of_finding {finding : Finding}
    (h : finding ∈ grammar.leftRecursive ∨ finding ∈ grammar.selfProducing) :
    ∃ callee rest, finding.expansion.symbols = callee :: rest ∧
      Relation.ReflTransGen grammar.rules.PassesOn callee finding.nonterminal := by
  rcases h with hleft | hself
  · have hfirst := (List.mem_filter.1 hleft).2
    rw [Expansion.isLeftRecursive, decide_eq_true_iff] at hfirst
    obtain ⟨rest, hsymbols⟩ := List.head?_eq_some_iff.1 hfirst
    exact ⟨finding.nonterminal, rest, hsymbols, .refl⟩
  · rcases Bool.or_eq_true_iff.1 (List.mem_filter.1 hself).2 with hdirect | hchain
    · -- All symbols are the nonterminal itself, and there is a first one.
      rw [Expansion.isSelfProducing, Expansion.isEmpty, Bool.and_eq_true,
        List.all_eq_true] at hdirect
      cases hsymbols : finding.expansion.symbols with
      | nil =>
        rw [hsymbols] at hdirect
        cases hdirect.1
      | cons callee rest =>
        have hcallee := hdirect.2 callee (hsymbols ▸ List.mem_cons_self)
        rw [of_decide_eq_true hcallee]
        exact ⟨finding.nonterminal, rest, rfl, .refl⟩
    · -- The chain begins with the only symbol of the expansion.
      rw [Rules.passesBack] at hchain
      cases hfirst : grammar.rules.passThrough? finding.expansion with
      | none =>
        rw [hfirst, Rules.chainReaches] at hchain
        cases hchain
      | some callee =>
        rw [hfirst] at hchain
        obtain ⟨hexpansion, -⟩ := Rules.passThrough?_eq_some_iff.1 hfirst
        exact ⟨callee, [], congrArg Expansion.symbols hexpansion,
          Rules.passesOn_of_chainReaches hchain⟩

/-- A finding is an expansion of its nonterminal, with others in front of it and behind it. -/
theorem exists_get?_of_finding {finding : Finding}
    (h : finding ∈ grammar.leftRecursive ∨ finding ∈ grammar.selfProducing) :
    ∃ before after, before.length = finding.index ∧
      grammar.rules.get? finding.nonterminal = some (before ++ finding.expansion :: after) := by
  have hmem : finding ∈ grammar.rules.alternatives :=
    h.elim (fun h => (List.mem_filter.1 h).1) (fun h => (List.mem_filter.1 h).1)
  obtain ⟨expansions, hget, hindex⟩ := Rules.mem_alternatives_iff.1 hmem
  obtain ⟨hlt, hexpansion⟩ := List.getElem?_eq_some_iff.1 hindex
  refine ⟨expansions.take finding.index, expansions.drop (finding.index + 1), ?_, ?_⟩
  · rw [List.length_take, Nat.min_eq_left (Nat.le_of_lt hlt)]
  · rw [hget, ← hexpansion, List.getElem_cons_drop, List.take_append_drop]

/-! ### Nonterminals that come back -/

/-- A nonterminal calls the one that it passes on to, where it stands. -/
theorem calls_of_passesOn {p : Place} (hskip : skip grammar.comments p = .ok p)
    {name other : String} (h : grammar.rules.PassesOn name other) :
    grammar.Calls (name, p) (other, p) :=
  calls_first hskip h.1

/-- **The nonterminal of a finding comes back to itself** where nothing is skipped and all
expansions in front of the finding fail. -/
theorem comesBack_of_finding {finding : Finding}
    (hfinding : finding ∈ grammar.leftRecursive ∨ finding ∈ grammar.selfProducing) {p : Place}
    (hskip : skip grammar.comments p = .ok p) {before after : List Expansion}
    (hget : grammar.rules.get? finding.nonterminal = some (before ++ finding.expansion :: after))
    (hbefore : ∀ earlier ∈ before, Misses grammar.Matches p earlier) :
    grammar.ComesBack (finding.nonterminal, p) := by
  obtain ⟨callee, rest, hsymbols, hchain⟩ := passesOn_of_finding hfinding
  have hfirst : grammar.Calls (finding.nonterminal, p) (callee, p) :=
    calls_head hskip hget hbefore hsymbols
  have hback : Relation.ReflTransGen grammar.Calls (callee, p) (finding.nonterminal, p) :=
    hchain.lift (fun name => (name, p)) fun _ _ hstep => calls_of_passesOn hskip hstep
  exact .head' hfirst hback

/-! ### Symbols by number -/

/-- **Symbols by number fail at an offset**: matching them one after another returns an attempt
with a fault, if it may nest symbols as deeply as it likes. -/
def FailsAt (grammar : Grammar) (text : List Char) (offset : Nat) (ids : List Nat) : Prop :=
  ∃ bound attempt, matchSequence (grammar.matchAt bound) ids (.ofOffset text offset) =
    some attempt ∧ attempt.fault ≠ none

/-- What fails by number fails by name. -/
theorem misses_of_failsAt {text : List Char} {offset : Nat} {expansion : Expansion}
    (hlisted : ∀ symbol ∈ expansion.symbols, symbol ∈ Table.names grammar.rules)
    (h : grammar.FailsAt text offset (expansion.symbols.map (Table.names grammar.rules).idxOf)) :
    Misses grammar.Matches (.ofOffset text offset) expansion := by
  obtain ⟨bound, attempt, hattempt, hfault⟩ := h
  have hmatch : ∀ symbol ∈ expansion.symbols, ∀ p,
      grammar.matchAt bound ((Table.names grammar.rules).idxOf symbol) p =
        grammar.matchName bound symbol p :=
    fun symbol hsymbol p => matchAt_eq_matchName grammar bound (hlisted symbol hsymbol) p
  rw [matchSequence_map hmatch] at hattempt
  have hspells := matchSequence_eq_some_iff.1 hattempt
  exact ⟨attempt, hspells.mono fun _ _ _ _ hstep => ⟨bound, hstep⟩, hfault⟩

/-- The table has a nonterminal with its expansions by number. -/
theorem get?_nonterminal {name : String} {expansions : List Expansion}
    (hget : grammar.rules.get? name = some expansions) :
    grammar.table.get? ((Table.names grammar.rules).idxOf name) =
      some ⟨name, .nonterminal (Table.number (Table.names grammar.rules) expansions)⟩ := by
  obtain ⟨symbol, hsymbol, hresolve⟩ :=
    get?_idxOf (Table.mem_names_of_contains (isNonterminal_of_get? hget))
  rw [Table.resolve, hget] at hresolve
  rw [hsymbol, ← Except.ok.inj hresolve]

/-! ### No false alarm -/

/-- **A parse comes to a symbol at an offset**: in its course the symbol is matched there. -/
def ComesTo (grammar : Grammar) (source symbol name : String) (offset : Nat) : Prop :=
  Relation.ReflTransGen grammar.Calls (symbol, .begin source.toList)
    (name, .ofOffset source.toList offset)

/-- **What the check reports is endless.** Take an expansion that is reported, and an offset where
nothing is skipped. If all expansions in front of it fail there, then matching its nonterminal there
gives no result, to whatever depth symbols may be nested, and every parse that comes to the
nonterminal there is endless. The first expansion has none in front of it. -/
theorem findings_are_endless {finding : Finding}
    (hfinding : finding ∈ grammar.leftRecursive ∨ finding ∈ grammar.selfProducing)
    {source : String} {offset : Nat} (hoffset : Text.IsBoundary source.toList offset)
    (hskip : skipFrom grammar.comments source.toList offset = .ok offset) :
    ∃ id alternatives, grammar.table.idOf? finding.nonterminal = some id ∧
      grammar.table.get? id = some ⟨finding.nonterminal, .nonterminal alternatives⟩ ∧
      finding.index < alternatives.length ∧
      ((∀ ids ∈ alternatives.take finding.index, grammar.FailsAt source.toList offset ids) →
        (∀ bound, grammar.matchAt bound id (.ofOffset source.toList offset) = none) ∧
        ∀ symbol, grammar.isNonterminal symbol = true →
          grammar.ComesTo source symbol finding.nonterminal offset →
          grammar.parse source symbol = .error .endless) := by
  obtain ⟨before, after, hindex, hget⟩ := exists_get?_of_finding hfinding
  have hname : finding.nonterminal ∈ Table.names grammar.rules :=
    Table.mem_names_of_contains (isNonterminal_of_get? hget)
  refine ⟨_, _, idOf?_eq_some_iff.2 ⟨hname, rfl⟩, get?_nonterminal hget, ?_, fun hfails => ?_⟩
  · rw [Table.number, List.length_map, List.length_append, List.length_cons]
    omega
  have hstay := (skip_of_skipFrom_ok hoffset hskip).1
  -- The expansions in front, by number and by name.
  rw [Table.number, List.map_append, List.take_left' (by rw [List.length_map, hindex])] at hfails
  have hbefore : ∀ earlier ∈ before,
      Misses grammar.Matches (.ofOffset source.toList offset) earlier := by
    intro earlier hearlier
    refine misses_of_failsAt (fun symbol hsymbol => ?_) (hfails _ (List.mem_map_of_mem hearlier))
    exact Table.mem_names_of_mem_symbols hget (List.mem_append_left _ hearlier) hsymbol
  have hback := comesBack_of_finding hfinding hstay hget hbefore
  refine ⟨fun bound => ?_, fun symbol hsymbol hcomes => ?_⟩
  · rw [matchAt_eq_matchName grammar bound hname]
    refine Option.eq_none_iff_forall_ne_some.2 fun result hresult => ?_
    -- A result would mean that no task that is come to comes back, and this one does.
    have hends := exists_matches_iff hname (Place.at_ofOffset hoffset)
    exact hends.1 ⟨result.1, result.2, bound, hresult⟩ _ .refl hback
  · refine (parse_eq_endless_iff hsymbol).2 fun tree hparse => ?_
    exact (exists_parse_iff hsymbol).1 ⟨tree, hparse⟩ _ hcomes hback

end

/-! ### A circle of two nonterminals -/

/-- The rules of a circle that may be left by its first expansion. -/
def circleRules : Rules where
  entries := [("Link", [⟨["Ring"]⟩]), ("Ring", [⟨["a"]⟩, ⟨["Link"]⟩])]
  ordered := by decide
  named := by simp

/-- **A circle of two nonterminals**, without comments. -/
def circle : Grammar where
  rules := circleRules
  start := none
  comments := []
  table := (Table.ofRules circleRules).toOption.getD ⟨#[]⟩
  start_mem := nofun
  table_eq := by cbv

/-- The circle is reported, and it is endless in front of a text that its first expansion does not
match. -/
theorem findings_are_endless_circle :
    ⟨"Ring", 1, ⟨["Link"]⟩⟩ ∈ circle.selfProducing ∧
      skipFrom circle.comments "b".toList 0 = .ok 0 ∧ circle.FailsAt "b".toList 0 [2] ∧
      (∀ bound, circle.matchAt bound 1 (.ofOffset "b".toList 0) = none) ∧
      circle.parse "b" "Ring" = .error .endless := by
  have hfinding : ⟨"Ring", 1, ⟨["Link"]⟩⟩ ∈ circle.selfProducing := by
    have hlist : circle.selfProducing = [⟨"Ring", 1, ⟨["Link"]⟩⟩] := by cbv
    rw [hlist]
    exact List.mem_singleton_self _
  have hskip : skipFrom circle.comments "b".toList 0 = .ok 0 := by cbv
  have hfails : circle.FailsAt "b".toList 0 [2] :=
    ⟨1, ⟨[.failed "a" 0 .noMatch], .ofOffset "b".toList 0, some .noMatch⟩, by cbv,
      Option.some_ne_none _⟩
  have hid : circle.table.idOf? "Ring" = some 1 := by cbv
  have hsymbol : circle.table.get? 1 = some ⟨"Ring", .nonterminal [[2], [0]]⟩ := by cbv
  obtain ⟨id, alternatives, hid', hsymbol', -, hendless⟩ :=
    findings_are_endless (.inr hfinding) (Text.isBoundary_zero "b".toList) hskip
  obtain rfl := Option.some.inj (hid.symm.trans hid')
  obtain rfl : [[2], [0]] = alternatives :=
    Meaning.nonterminal.inj (Symbol.mk.inj (Option.some.inj (hsymbol.symm.trans hsymbol'))).2
  obtain ⟨hnone, hparse⟩ := hendless fun ids hids => by
    rw [List.mem_singleton.1 hids]
    exact hfails
  exact ⟨hfinding, hskip, hfails, hnone, hparse "Ring" rfl .refl⟩

end Grammar

end OrderedChoice
