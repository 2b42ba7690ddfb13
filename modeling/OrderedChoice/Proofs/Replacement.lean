import OrderedChoice.Proofs.Bound
import OrderedChoice.Proofs.Entries

/-!
# Other expansions for a nonterminal

Two grammars can agree in everything but the expansions of one nonterminal. To compare their parses
one needs to know what the rules of the second give to each name, that the second is a grammar at
all, and what of a grammar a parse depends on:

* `Rules.withExpansions` are the rules with other expansions for a nonterminal, and
  `Rules.get?_withExpansions` says what they give to each name.
* `Grammar.exists_build_withExpansions`: they have a grammar if all expansions are old ones, since
  no symbol is new.
* `Grammar.parse_eq_of_matches`: grammars with the same comments and the same nonterminals have the
  same parses if they match symbols alike.
-/

namespace OrderedChoice

namespace Rules

variable {rules : Rules} {name other : String} {expansions : List Expansion}

/-! ### Rules -/

/-- The entry, with other expansions if it is the one of the name. -/
def replaceIn (name : String) (expansions : List Expansion) (entry : RuleEntry) : RuleEntry :=
  if entry.1 = name then (name, expansions) else entry

@[simp] theorem replaceIn_fst (name : String) (expansions : List Expansion) (entry : RuleEntry) :
    (replaceIn name expansions entry).1 = entry.1 := by
  unfold replaceIn
  split
  · next heq => exact heq.symm
  · rfl

/-- **The rules with other expansions for a nonterminal.** A name without rules does not get
any. -/
def withExpansions (rules : Rules) (name : String) (expansions : List Expansion) : Rules where
  entries := rules.entries.map (replaceIn name expansions)
  ordered := by
    rw [List.pairwise_map]
    simpa only [replaceIn_fst] using rules.ordered
  named entry hentry := by
    obtain ⟨old, hold, rfl⟩ := List.mem_map.1 hentry
    rw [replaceIn_fst]
    exact rules.named old hold

theorem lookup_replaceIn (entries : List RuleEntry) :
    (entries.map (replaceIn name expansions)).lookup other =
      if other = name then (entries.lookup name).map fun _ => expansions
      else entries.lookup other := by
  induction entries with
  | nil => simp
  | cons entry entries ih =>
    rw [List.map_cons, lookup_entry_cons, replaceIn_fst, ih, lookup_entry_cons, lookup_entry_cons]
    by_cases hother : other = name
    · -- The name itself: its entry has been replaced.
      subst hother
      by_cases hentry : other = entry.1
      · simp [replaceIn, hentry]
      · simp [hentry]
    · by_cases hentry : other = entry.1
      · have hkept : replaceIn name expansions entry = entry :=
          if_neg fun hname => hother (hentry.trans hname)
        rw [if_pos hentry, if_neg hother, if_pos hentry, hkept]
      · rw [if_neg hentry, if_neg hother, if_neg hother, if_neg hentry]

/-- **What the rules give to names** after a replacement: the new expansions to the nonterminal, and
what they gave to any other name. -/
theorem get?_withExpansions :
    (rules.withExpansions name expansions).get? other =
      if other = name then (rules.get? name).map fun _ => expansions else rules.get? other :=
  lookup_replaceIn rules.entries

theorem get?_withExpansions_self {old : List Expansion} (hget : rules.get? name = some old) :
    (rules.withExpansions name expansions).get? name = some expansions := by
  rw [get?_withExpansions, if_pos rfl, hget, Option.map_some]

theorem get?_withExpansions_of_ne (hne : other ≠ name) :
    (rules.withExpansions name expansions).get? other = rules.get? other := by
  rw [get?_withExpansions, if_neg hne]

/-- The nonterminals stay the same. -/
theorem contains_withExpansions :
    (rules.withExpansions name expansions).contains other = rules.contains other := by
  rw [contains, contains, get?_withExpansions]
  by_cases hother : other = name
  · rw [if_pos hother, hother, Option.isSome_map]
  · rw [if_neg hother]

/-- The symbols that occur are those of the expansions. -/
theorem mem_occurrences {symbol : String} :
    symbol ∈ rules.occurrences ↔ ∃ name expansions expansion,
      rules.get? name = some expansions ∧ expansion ∈ expansions ∧ symbol ∈ expansion.symbols := by
  unfold occurrences
  simp only [List.mem_flatMap, Prod.exists, get?_eq_some_iff]
  constructor
  · rintro ⟨name, expansions, hentry, expansion, hexpansion, hsymbol⟩
    exact ⟨name, expansions, expansion, hentry, hexpansion, hsymbol⟩
  · rintro ⟨name, expansions, expansion, hentry, hexpansion, hsymbol⟩
    exact ⟨name, expansions, hentry, expansion, hexpansion, hsymbol⟩

/-- If all expansions are old ones, so are all symbols. -/
theorem mem_names_of_withExpansions {old : List Expansion} (hget : rules.get? name = some old)
    (hold : ∀ expansion ∈ expansions, expansion ∈ old) {symbol : String}
    (h : symbol ∈ Table.names (rules.withExpansions name expansions)) :
    symbol ∈ Table.names rules := by
  rcases Table.mem_names.1 h with hnonterminal | hoccurs
  · have hcontains := contains_iff.2 hnonterminal
    rw [contains_withExpansions] at hcontains
    exact Table.mem_names_of_contains hcontains
  · obtain ⟨nonterminal, found, expansion, hfound, hexpansion, hsymbol⟩ := mem_occurrences.1 hoccurs
    by_cases hname : nonterminal = name
    · rw [hname, get?_withExpansions_self hget] at hfound
      obtain rfl := Option.some.inj hfound
      exact Table.mem_names_of_mem_symbols hget (hold expansion hexpansion) hsymbol
    · rw [get?_withExpansions_of_ne hname] at hfound
      exact Table.mem_names_of_mem_symbols hfound hexpansion hsymbol

end Rules

/-! ### Building -/

namespace Table

variable [PatternEngine]

/-- Names that are all symbols have a list of symbols. -/
theorem exists_resolveAll {rules : Rules} {names list : List String}
    (h : ∀ name ∈ list, ∃ symbol, resolve rules names name = .ok symbol) :
    ∃ symbols, resolveAll rules names list = .ok symbols := by
  induction list with
  | nil => exact ⟨[], rfl⟩
  | cons name list ih =>
    obtain ⟨symbol, hsymbol⟩ := h name List.mem_cons_self
    obtain ⟨symbols, hsymbols⟩ := ih fun other hother => h other (List.mem_cons_of_mem name hother)
    refine ⟨symbol :: symbols, ?_⟩
    rw [resolveAll, hsymbol, hsymbols]

/-- **Rules have a table** if every symbol without rules is a pattern. -/
theorem exists_ofRules {rules : Rules}
    (h : ∀ name ∈ names rules, rules.get? name = none →
      ∃ pattern, Pattern.ofText? name.toList = some pattern) :
    ∃ table, ofRules rules = .ok table := by
  have hresolve : ∀ name ∈ names rules, ∃ symbol,
      resolve rules (names rules) name = .ok symbol := by
    intro name hname
    unfold resolve
    cases hget : rules.get? name with
    | some expansions => exact ⟨_, rfl⟩
    | none =>
      obtain ⟨pattern, hpattern⟩ := h name hname hget
      simp only [hpattern]
      exact ⟨_, rfl⟩
  obtain ⟨symbols, hsymbols⟩ := exists_resolveAll hresolve
  refine ⟨⟨symbols.toArray⟩, ?_⟩
  rw [ofRules, hsymbols]

end Table

namespace Grammar

variable [PatternEngine] {grammar : Grammar}

/-- **With old expansions only, there is a grammar again.** -/
theorem exists_build_withExpansions {name : String} {old expansions : List Expansion}
    (hget : grammar.rules.get? name = some old)
    (hold : ∀ expansion ∈ expansions, expansion ∈ old) :
    ∃ variant, build (grammar.rules.withExpansions name expansions) grammar.start
      grammar.comments = .ok variant := by
  have hcontains : ∀ symbol, (grammar.rules.withExpansions name expansions).contains symbol =
      grammar.rules.contains symbol := fun _ => Rules.contains_withExpansions
  have htable : ∃ table,
      Table.ofRules (grammar.rules.withExpansions name expansions) = .ok table := by
    refine Table.exists_ofRules fun symbol hsymbol hnone => ?_
    -- A symbol without rules had none before, and was a pattern then.
    have hterminal : grammar.rules.contains symbol = false := by
      rw [← hcontains]
      exact Rules.contains_eq_false_iff.2 hnone
    exact ofText?_of_mem_names (Rules.mem_names_of_withExpansions hget hold hsymbol)
      (Rules.contains_eq_false_iff.1 hterminal)
  obtain ⟨table, htable⟩ := htable
  refine exists_build grammar.comments (fun symbol hsymbol => ?_) htable
  rw [hcontains]
  exact grammar.start_mem symbol hsymbol

/-! ### Parses -/

/-- How a parse ends depends on nothing but the comments of its grammar. -/
theorem treeOf_congr {other : Grammar} (hcomments : other.comments = grammar.comments)
    (symbol : String) (root : Tree) (place : Place) :
    other.treeOf symbol root place = grammar.treeOf symbol root place := by
  unfold treeOf finish
  rw [hcomments]

/-- **Grammars that match a symbol alike parse alike**, if they have the same comments and the
symbol is a nonterminal of both or of none. -/
theorem parse_eq_of_matches {other : Grammar} {source symbol : String}
    (hcomments : other.comments = grammar.comments)
    (hsymbol : other.isNonterminal symbol = grammar.isNonterminal symbol)
    (hmatches : ∀ root place, other.Matches symbol (.begin source.toList) root place ↔
      grammar.Matches symbol (.begin source.toList) root place) :
    other.parse source symbol = grammar.parse source symbol := by
  have htree : ∀ tree, other.parse source symbol = .ok tree ↔
      grammar.parse source symbol = .ok tree := by
    intro tree
    simp only [parse_eq_ok_iff, hsymbol, hmatches, treeOf_congr hcomments]
  cases hnonterminal : grammar.isNonterminal symbol with
  | false =>
    have hother := hsymbol.trans hnonterminal
    rw [parse_eq_unknownSymbol_iff.2 ⟨hnonterminal, rfl⟩,
      parse_eq_unknownSymbol_iff.2 ⟨hother, rfl⟩]
  | true =>
    by_cases hends : ∃ tree, grammar.parse source symbol = .ok tree
    · obtain ⟨tree, hparse⟩ := hends
      rw [hparse, (htree tree).2 hparse]
    · -- A parse as a nonterminal that gives no tree is endless.
      have hnone : ∀ tree, grammar.parse source symbol ≠ .ok tree :=
        fun tree hparse => hends ⟨tree, hparse⟩
      have hother : ∀ tree, other.parse source symbol ≠ .ok tree :=
        fun tree hparse => hnone tree ((htree tree).1 hparse)
      rw [(parse_eq_endless_iff hnonterminal).2 hnone,
        (parse_eq_endless_iff (hsymbol.trans hnonterminal)).2 hother]

end Grammar

end OrderedChoice
