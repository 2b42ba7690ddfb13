import OrderedChoice.Proofs.Check
import OrderedChoice.Proofs.Entries

/-!
# What building a grammar comes to

A list of entries, a start symbol and comments are built to a grammar, or to the first of their
faults. An empty name comes before all others, an unknown start symbol before a symbol that is no
pattern, and among such symbols the first one counts: the nonterminals are gone through in the order
of their code points, wherever their entries stand in the list, and a name is a nonterminal
everywhere if it has an entry anywhere.

* `Rules.find?_occurrences_eq_some_iff`: the first symbol of some kind is the one whose site comes
  before those of all others.
* `Table.ofRules_eq_error_iff`: a table fails with the first symbol of the rules that is neither a
  nonterminal nor a pattern. Names are listed once, but the first mention of each is kept.
* `Grammar.building_names_first_fault`: what comes of building, said of the entries alone.
-/

namespace OrderedChoice

/-! ### Sites -/

/-- **Site** of a symbol: an expansion of a nonterminal, and a place in it. -/
structure Site where
  /-- The nonterminal. -/
  nonterminal : String
  /-- The place of the expansion among those of the nonterminal, from zero. -/
  index : Nat
  /-- The place of the symbol in the expansion, from zero. -/
  position : Nat

/-- **A site comes before another one** when the nonterminals are gone through in the order of their
code points, and their expansions and symbols from left to right. -/
def Site.Before (site other : Site) : Prop :=
  site.nonterminal < other.nonterminal ∨
    site.nonterminal = other.nonterminal ∧
      (site.index < other.index ∨ site.index = other.index ∧ site.position < other.position)

theorem Site.Before.asymm {site other : Site} (h : site.Before other) : ¬ other.Before site := by
  rintro (hlt' | ⟨heq', hrest'⟩)
  · rcases h with hlt | ⟨heq, -⟩
    · exact String.lt_asymm hlt hlt'
    · exact String.lt_irrefl _ (heq ▸ hlt')
  · rcases h with hlt | ⟨-, hrest⟩
    · exact String.lt_irrefl _ (heq' ▸ hlt)
    · omega

/-- **A symbol stands at a site**, by what each name is given. -/
def StandsAt (given : String → Option (List Expansion)) (symbol : String) (site : Site) : Prop :=
  ∃ expansions expansion, given site.nonterminal = some expansions ∧
    expansions[site.index]? = some expansion ∧ expansion.symbols[site.position]? = some symbol

/-- **The first element of an ordered list** with a property is the one with no such element before
it. -/
theorem find?_eq_some_iff_of_pairwise {α : Type} {R : α → α → Prop} {list : List α} {p : α → Bool}
    {a : α} (hasymm : ∀ a b, R a b → ¬ R b a) (hordered : list.Pairwise R) :
    list.find? p = some a ↔ a ∈ list ∧ p a = true ∧ ∀ b ∈ list, R b a → p b = false := by
  constructor
  · intro h
    obtain ⟨hp, front, back, rfl, hfront⟩ := List.find?_eq_some_iff_append.1 h
    refine ⟨List.mem_append_right _ List.mem_cons_self, hp, fun b hb hbefore => ?_⟩
    -- What comes before `a` stands in front of it, and there nothing has the property.
    rcases List.mem_append.1 hb with hb | hb
    · simpa using hfront b hb
    · rcases List.mem_cons.1 hb with rfl | hb
      · exact absurd hbefore (hasymm _ _ hbefore)
      · have hafter := (List.pairwise_cons.1 (List.pairwise_append.1 hordered).2.1).1 b hb
        exact absurd hbefore (hasymm _ _ hafter)
  · rintro ⟨hmem, hp, hfirst⟩
    obtain ⟨front, back, rfl⟩ := List.append_of_mem hmem
    refine List.find?_eq_some_iff_append.2 ⟨hp, front, back, rfl, fun b hb => ?_⟩
    have hbefore : R b a := (List.pairwise_append.1 hordered).2.2 b hb a List.mem_cons_self
    rw [hfirst b (List.mem_append_left _ hb) hbefore]
    rfl

namespace Rules

variable {rules : Rules}

/-- **The symbols of the rules with their sites**, in the order of the rules. -/
def sites (rules : Rules) : List (Site × String) :=
  rules.alternatives.flatMap fun finding =>
    finding.expansion.symbols.zipIdx.map fun (symbol, position) =>
      (⟨finding.nonterminal, finding.index, position⟩, symbol)

theorem map_snd_sites (rules : Rules) : rules.sites.map (·.2) = rules.occurrences := by
  unfold sites alternatives occurrences
  rw [List.map_flatMap, List.flatMap_assoc]
  congr 1
  funext entry
  rw [List.flatMap_map]
  -- Without the places only the symbols of the expansions are left.
  calc
    _ = entry.2.zipIdx.flatMap fun pair => pair.1.symbols := by
      congr 1
      funext pair
      rw [List.map_map]
      exact List.zipIdx_map_fst 0 pair.1.symbols
    _ = (entry.2.zipIdx.map (·.1)).flatMap (·.symbols) := by rw [List.flatMap_map]
    _ = entry.2.flatMap (·.symbols) := by rw [List.zipIdx_map_fst]

theorem sites_pairwise (rules : Rules) : rules.sites.Pairwise fun a b => a.1.Before b.1 := by
  unfold sites
  rw [List.pairwise_flatMap]
  constructor
  · intro finding _
    rw [List.pairwise_map]
    refine List.pairwise_iff_getElem.2 fun i j hi hj hlt => .inr ⟨rfl, .inr ⟨rfl, ?_⟩⟩
    simpa using hlt
  · refine rules.alternatives_pairwise.imp fun {finding other} hbefore a ha b hb => ?_
    obtain ⟨_, -, rfl⟩ := List.mem_map.1 ha
    obtain ⟨_, -, rfl⟩ := List.mem_map.1 hb
    exact hbefore.imp_right (And.imp_right .inl)

theorem mem_sites {site : Site} {symbol : String} :
    (site, symbol) ∈ rules.sites ↔ StandsAt rules.get? symbol site := by
  obtain ⟨name, index, position⟩ := site
  unfold sites
  rw [List.mem_flatMap]
  constructor
  · rintro ⟨finding, hfinding, hmem⟩
    obtain ⟨⟨symbol, position⟩, hsymbol, heq⟩ := List.mem_map.1 hmem
    cases heq
    obtain ⟨expansions, hget, hindex⟩ := mem_alternatives_iff.1 hfinding
    exact ⟨expansions, finding.expansion, hget, hindex, List.mk_mem_zipIdx_iff_getElem?.1 hsymbol⟩
  · rintro ⟨expansions, expansion, hget, hindex, hsymbol⟩
    refine ⟨⟨name, index, expansion⟩, mem_alternatives_iff.2 ⟨expansions, hget, hindex⟩, ?_⟩
    exact List.mem_map.2 ⟨(symbol, position), List.mk_mem_zipIdx_iff_getElem?.2 hsymbol, rfl⟩

/-- **The first symbol of some kind** in the rules stands at a site before which no such symbol
does. -/
theorem find?_occurrences_eq_some_iff {p : String → Bool} {symbol : String} :
    rules.occurrences.find? p = some symbol ↔
      ∃ site, StandsAt rules.get? symbol site ∧ p symbol = true ∧
        ∀ other earlier, StandsAt rules.get? other earlier → earlier.Before site →
          p other = false := by
  rw [← map_snd_sites, List.find?_map, Option.map_eq_some_iff]
  have hfirst : ∀ a : Site × String, rules.sites.find? (p ∘ Prod.snd) = some a ↔
      a ∈ rules.sites ∧ p a.2 = true ∧
        ∀ b ∈ rules.sites, b.1.Before a.1 → p b.2 = false := fun a =>
    find?_eq_some_iff_of_pairwise (fun _ _ => Site.Before.asymm) rules.sites_pairwise
  constructor
  · rintro ⟨⟨site, symbol⟩, hfind, rfl⟩
    obtain ⟨hmem, hp, hbefore⟩ := (hfirst _).1 hfind
    exact ⟨site, mem_sites.1 hmem, hp, fun other earlier hstands =>
      hbefore (earlier, other) (mem_sites.2 hstands)⟩
  · rintro ⟨site, hstands, hp, hbefore⟩
    refine ⟨(site, symbol), (hfirst _).2 ⟨mem_sites.2 hstands, hp, ?_⟩, rfl⟩
    rintro ⟨earlier, other⟩ hmem
    exact hbefore other earlier (mem_sites.1 hmem)

end Rules

/-! ### Tables -/

namespace Table

variable {rules : Rules}

/-- Listing names once keeps the first mention of each. -/
theorem find?_distinct {seen list : List String} {p : String → Bool}
    (hseen : ∀ name ∈ seen, p name = false) : (distinct seen list).find? p = list.find? p := by
  induction list generalizing seen with
  | nil => rfl
  | cons name list ih =>
    rw [distinct, List.find?_cons]
    split
    · next hmem =>
      rw [hseen name (List.contains_iff_mem.1 hmem), ih hseen]
    · rw [List.find?_cons]
      cases hname : p name with
      | true => rfl
      | false => exact ih (List.forall_mem_cons.2 ⟨hname, hseen⟩)

variable [PatternEngine]

/-- Whether a name is **neither a nonterminal nor a pattern**. -/
def isBad (rules : Rules) (name : String) : Bool :=
  (rules.get? name).isNone && (Pattern.ofText? name.toList).isNone

theorem isBad_of_contains {name : String} (h : rules.contains name = true) :
    isBad rules name = false := by
  rw [isBad, Option.isNone_eq_false_iff.2 h, Bool.false_and]

/-- A name is a symbol exactly if it is not bad. -/
theorem resolve_cases (rules : Rules) (names : List String) (name : String) :
    isBad rules name = true ∧ resolve rules names name = .error (.invalidPattern name) ∨
      isBad rules name = false ∧ ∃ symbol, resolve rules names name = .ok symbol := by
  unfold isBad resolve
  cases rules.get? name with
  | some expansions => exact .inr ⟨rfl, _, rfl⟩
  | none =>
    cases Pattern.ofText? name.toList with
    | none => exact .inl ⟨rfl, rfl⟩
    | some pattern => exact .inr ⟨rfl, _, rfl⟩

/-- **A list of names fails with its first bad name.** -/
theorem resolveAll_eq_error_iff (names : List String) {list : List String} {e : Error} :
    resolveAll rules names list = .error e ↔
      ∃ name, list.find? (isBad rules) = some name ∧ e = .invalidPattern name := by
  induction list with
  | nil => exact ⟨nofun, fun ⟨_, hname, _⟩ => nomatch hname⟩
  | cons name list ih =>
    rw [resolveAll]
    rcases resolve_cases rules names name with ⟨hbad, hresolve⟩ | ⟨hgood, symbol, hresolve⟩
    · rw [hresolve, List.find?_cons_of_pos hbad]
      constructor
      · intro h
        exact ⟨name, rfl, (Except.error.inj h).symm⟩
      · rintro ⟨first, hfirst, rfl⟩
        rw [Option.some.inj hfirst]
    · rw [hresolve, List.find?_cons_of_neg (Bool.eq_false_iff.1 hgood), ← ih]
      cases resolveAll rules names list with
      | error e' => rfl
      | ok symbols => exact ⟨nofun, nofun⟩

/-- **A table fails with the first symbol of the rules that is bad.** -/
theorem ofRules_eq_error_iff {e : Error} :
    ofRules rules = .error e ↔
      ∃ name, rules.occurrences.find? (isBad rules) = some name ∧ e = .invalidPattern name := by
  -- The nonterminals come first among the names, and none of them is bad.
  have hnonterminals : rules.nonterminals.find? (isBad rules) = none := by
    refine List.find?_eq_none.2 fun name hname => ?_
    rw [isBad_of_contains (Rules.contains_iff.2 hname)]
    exact Bool.false_ne_true
  have hnames : (names rules).find? (isBad rules) = rules.occurrences.find? (isBad rules) := by
    rw [names, find?_distinct fun _ hname => absurd hname List.not_mem_nil, List.find?_append,
      hnonterminals, Option.none_or]
  rw [← hnames, ← resolveAll_eq_error_iff (names rules), ofRules]
  cases resolveAll rules (names rules) (names rules) with
  | error e' => rw [Except.error.injEq, Except.error.injEq]
  | ok symbols =>
    -- On neither side there is an error.
    constructor
    · intro h
      cases h
    · intro h
      cases h

end Table

/-! ### Building -/

/-- **A symbol offends**: it is no entry's name, and it is no pattern. -/
def Offends [PatternEngine] (entries : List RuleEntry) (symbol : String) : Prop :=
  symbol ∉ entries.map (·.1) ∧ Pattern.ofExpression? ("^(?:" ++ symbol ++ ")").toList = none

/-- **The first symbol that offends**, when the nonterminals are gone through in the order of their
code points, and their expansions and symbols from left to right. -/
def FirstOffender [PatternEngine] (entries : List RuleEntry) (symbol : String) : Prop :=
  ∃ site, StandsAt (Rules.expansionsOf entries) symbol site ∧ Offends entries symbol ∧
    ∀ other earlier, StandsAt (Rules.expansionsOf entries) other earlier → earlier.Before site →
      ¬ Offends entries other

namespace Grammar

variable {entries : List RuleEntry} {start : Option String} {comments : List Comment}
  {rules : Rules}

/-- The nonterminals of the rules are the names of the entries. -/
theorem contains_iff_of_ofEntries (h : Rules.ofEntries entries = .ok rules) {name : String} :
    rules.contains name = true ↔ name ∈ entries.map (·.1) := by
  obtain ⟨-, hget⟩ := Rules.ofEntries_eq_ok_iff.1 h
  rw [← not_iff_not, ← Rules.expansionsOf_eq_none_iff, ← hget, Bool.not_eq_true,
    Rules.contains_eq_false_iff]

theorem exists_rules (h : "" ∉ entries.map (·.1)) :
    ∃ rules, Rules.ofEntries entries = .ok rules := by
  cases hrules : Rules.ofEntries entries with
  | error e => exact absurd (Rules.ofEntries_eq_error_iff.1 hrules).2 h
  | ok rules => exact ⟨rules, rfl⟩

section

variable [PatternEngine]

/-- **What comes of building** a grammar from a list of entries. -/
inductive Outcome (entries : List RuleEntry) (start : Option String) (comments : List Comment) :
    Except Error Grammar → Prop where
  /-- An entry has the empty name. -/
  | emptyName : "" ∈ entries.map (·.1) →
    Outcome entries start comments (.error .emptyNonterminal)
  /-- The start symbol has no entry. -/
  | unknownStart {symbol : String} : "" ∉ entries.map (·.1) →
    start = some symbol → symbol ∉ entries.map (·.1) →
    Outcome entries start comments (.error (.unknownStart symbol))
  /-- Some symbol is no pattern, and the first one of these is named. -/
  | invalidPattern {symbol : String} : "" ∉ entries.map (·.1) →
    (∀ symbol, start = some symbol → symbol ∈ entries.map (·.1)) →
    FirstOffender entries symbol →
    Outcome entries start comments (.error (.invalidPattern symbol))
  /-- There is no fault, and the grammar is the one of the entries. -/
  | built {grammar : Grammar} : "" ∉ entries.map (·.1) →
    (∀ symbol, start = some symbol → symbol ∈ entries.map (·.1)) →
    (∀ symbol site, StandsAt (Rules.expansionsOf entries) symbol site → ¬ Offends entries symbol) →
    (∀ name, grammar.rules.get? name = Rules.expansionsOf entries name) →
    grammar.start = start → grammar.comments = comments →
    Outcome entries start comments (.ok grammar)

/-! An unknown start symbol is looked for first, and then the table is made. -/

theorem build_of_unknown {symbol : String} (hunknown : rules.contains symbol = false) :
    build rules (some symbol) comments = .error (.unknownStart symbol) := by
  rw [build]
  split
  · next other hstart =>
    rw [Option.some.inj (Option.filter_eq_some_iff.1 hstart).1]
  · next hstart =>
    rw [Option.filter_some, hunknown] at hstart
    cases hstart

theorem build_of_bad {e : Error}
    (hknown : ∀ symbol, start = some symbol → rules.contains symbol = true)
    (htable : Table.ofRules rules = .error e) : build rules start comments = .error e := by
  rw [build]
  split
  · next symbol hstart =>
    obtain ⟨hsymbol, hunknown⟩ := Option.filter_eq_some_iff.1 hstart
    rw [hknown symbol hsymbol] at hunknown
    cases hunknown
  · split
    · next e' htable' => rw [Except.error.inj (htable'.symm.trans htable)]
    · next table htable' => cases htable'.symm.trans htable

/-- The bad names are those that offend. -/
theorem isBad_iff_offends (h : Rules.ofEntries entries = .ok rules) {name : String} :
    Table.isBad rules name = true ↔ Offends entries name := by
  rw [Table.isBad, Bool.and_eq_true, Option.isNone_iff_eq_none, Option.isNone_iff_eq_none,
    Pattern.ofText?_eq_ofExpression?, Offends, ← contains_iff_of_ofEntries h, Bool.not_eq_true,
    Rules.contains_eq_false_iff]

/-- **The first offender is the first bad symbol** of the rules. -/
theorem firstOffender_iff (h : Rules.ofEntries entries = .ok rules) {symbol : String} :
    FirstOffender entries symbol ↔
      rules.occurrences.find? (Table.isBad rules) = some symbol := by
  obtain ⟨-, hget⟩ := Rules.ofEntries_eq_ok_iff.1 h
  have hgiven : rules.get? = Rules.expansionsOf entries := funext hget
  rw [Rules.find?_occurrences_eq_some_iff, FirstOffender, hgiven]
  simp only [isBad_iff_offends h, ← Bool.not_eq_true]

/-- Without a first offender there is none. -/
theorem not_offends_of_find?_eq_none (h : Rules.ofEntries entries = .ok rules)
    (hnone : rules.occurrences.find? (Table.isBad rules) = none) {symbol : String} {site : Site}
    (hstands : StandsAt (Rules.expansionsOf entries) symbol site) : ¬ Offends entries symbol := by
  obtain ⟨-, hget⟩ := Rules.ofEntries_eq_ok_iff.1 h
  have hgiven : rules.get? = Rules.expansionsOf entries := funext hget
  rw [← hgiven] at hstands
  have hoccurs : symbol ∈ rules.occurrences := by
    rw [← Rules.map_snd_sites]
    exact List.mem_map.2 ⟨_, Rules.mem_sites.2 hstands, rfl⟩
  rw [← isBad_iff_offends h]
  exact List.find?_eq_none.1 hnone symbol hoccurs

/-! The faults win in this order. -/

theorem ofEntries_of_emptyName (h : "" ∈ entries.map (·.1)) :
    ofEntries entries start comments = .error .emptyNonterminal := by
  rw [ofEntries, Rules.ofEntries_eq_error_iff.2 ⟨rfl, h⟩]
  rfl

theorem ofEntries_of_ok (h : Rules.ofEntries entries = .ok rules) :
    ofEntries entries start comments = build rules start comments := by
  rw [ofEntries, h]
  rfl

/-- **An outcome is what building gives.** -/
theorem Outcome.ofEntries_eq {outcome : Except Error Grammar}
    (h : Outcome entries start comments outcome) :
    ofEntries entries start comments = outcome := by
  cases h with
  | emptyName hempty => exact ofEntries_of_emptyName hempty
  | unknownStart hnamed hstart hunknown =>
    obtain ⟨rules, hrules⟩ := exists_rules hnamed
    rw [ofEntries_of_ok hrules, hstart]
    refine build_of_unknown (Bool.eq_false_iff.2 fun hcontains => hunknown ?_)
    exact (contains_iff_of_ofEntries hrules).1 hcontains
  | invalidPattern hnamed hknown hfirst =>
    obtain ⟨rules, hrules⟩ := exists_rules hnamed
    rw [ofEntries_of_ok hrules]
    refine build_of_bad (fun symbol hsymbol => ?_) (Table.ofRules_eq_error_iff.2 ?_)
    · exact (contains_iff_of_ofEntries hrules).2 (hknown symbol hsymbol)
    · exact ⟨_, (firstOffender_iff hrules).1 hfirst, rfl⟩
  | built hnamed hknown hnone hget hstart hcomments =>
    exact ofEntries_eq_ok_iff.2 ⟨Rules.ofEntries_eq_ok_iff.2 ⟨hnamed, hget⟩, hstart, hcomments⟩

/-- **Building has an outcome**, whatever it is given. -/
theorem outcome_ofEntries (entries : List RuleEntry) (start : Option String)
    (comments : List Comment) :
    Outcome entries start comments (ofEntries entries start comments) := by
  by_cases hempty : "" ∈ entries.map (·.1)
  · rw [ofEntries_of_emptyName hempty]
    exact .emptyName hempty
  obtain ⟨rules, hrules⟩ := exists_rules hempty
  rw [ofEntries_of_ok hrules]
  by_cases hknown : ∀ symbol, start = some symbol → symbol ∈ entries.map (·.1)
  · have hstart : ∀ symbol, start = some symbol → rules.contains symbol = true :=
      fun symbol hsymbol => (contains_iff_of_ofEntries hrules).2 (hknown symbol hsymbol)
    -- What is left is whether some symbol is bad.
    cases hfind : rules.occurrences.find? (Table.isBad rules) with
    | some symbol =>
      rw [build_of_bad hstart (Table.ofRules_eq_error_iff.2 ⟨symbol, hfind, rfl⟩)]
      exact .invalidPattern hempty hknown ((firstOffender_iff hrules).2 hfind)
    | none =>
      cases htable : Table.ofRules rules with
      | error e =>
        obtain ⟨symbol, hsymbol, -⟩ := Table.ofRules_eq_error_iff.1 htable
        rw [hfind] at hsymbol
        cases hsymbol
      | ok table =>
        obtain ⟨grammar, hgrammar⟩ := exists_build comments hstart htable
        rw [hgrammar]
        obtain ⟨rfl, hsame, hcomments⟩ := build_eq_ok_iff.1 hgrammar
        exact .built hempty hknown (fun symbol site => not_offends_of_find?_eq_none hrules hfind)
          (Rules.ofEntries_eq_ok_iff.1 hrules).2 hsame hcomments
  · push Not at hknown
    obtain ⟨symbol, rfl, hunknown⟩ := hknown
    have hcontains : rules.contains symbol = false :=
      Bool.eq_false_iff.2 fun h => hunknown ((contains_iff_of_ofEntries hrules).1 h)
    rw [build_of_unknown hcontains]
    exact .unknownStart hempty rfl hunknown

/-! ### Grammars that are built -/

/-- **A grammar is ready** to be parsed with. -/
structure Ready (grammar : Grammar) : Prop where
  /-- The start symbol is a nonterminal. -/
  start_isNonterminal : ∀ symbol, grammar.start = some symbol →
    grammar.isNonterminal symbol = true
  /-- Every symbol of the table that is no nonterminal is a terminal, and its pattern is compiled
  from its name. -/
  terminal : ∀ id symbol, grammar.table.get? id = some symbol →
    grammar.isNonterminal symbol.name = false →
    ∃ pattern, Pattern.ofExpression? ("^(?:" ++ symbol.name ++ ")").toList = some pattern ∧
      symbol.meaning = .terminal pattern
  /-- A parse comes to nonterminals and compiled terminals only. -/
  parse : ∀ source symbol : String, grammar.isNonterminal symbol = true → ∀ task,
    Relation.ReflTransGen grammar.Calls (symbol, .begin source.toList) task →
      grammar.isNonterminal task.1 = true ∨ ∃ pattern, grammar.Compiles task.1 pattern

variable {grammar : Grammar}

/-- A symbol of a grammar that is no nonterminal is compiled. -/
theorem exists_compiles {name : String} (hname : name ∈ Table.names grammar.rules)
    (hterminal : grammar.isNonterminal name = false) :
    ∃ pattern, grammar.Compiles name pattern := by
  have hget : grammar.rules.get? name = none := Rules.contains_eq_false_iff.1 hterminal
  obtain ⟨pattern, hpattern⟩ := ofText?_of_mem_names hname hget
  exact ⟨pattern, (compiles_iff hname).2 ⟨hget, hpattern⟩⟩

theorem ready (grammar : Grammar) : grammar.Ready where
  start_isNonterminal := grammar.start_mem
  terminal id symbol hsymbol hterminal := by
    obtain ⟨-, hresolve⟩ := grammar.table_symbols
    have hsame := hresolve symbol (Array.mem_toList_iff.2 (Array.mem_of_getElem? hsymbol))
    have hget : grammar.rules.get? symbol.name = none := Rules.contains_eq_false_iff.1 hterminal
    rw [Table.resolve, hget] at hsame
    rw [← Pattern.ofText?_eq_ofExpression?]
    cases hpattern : Pattern.ofText? symbol.name.toList with
    | none =>
      rw [hpattern] at hsame
      cases hsame
    | some pattern =>
      rw [hpattern] at hsame
      exact ⟨pattern, rfl, (congrArg Symbol.meaning (Except.ok.inj hsame)).symm⟩
  parse source symbol hsymbol task hreach := by
    have hname : task.1 ∈ Table.names grammar.rules := by
      induction hreach with
      | refl => exact Table.mem_names_of_contains hsymbol
      | tail _ hcall _ => exact hcall.mem_names
    cases hterminal : grammar.isNonterminal task.1 with
    | true => exact .inl rfl
    | false => exact .inr (exists_compiles hname hterminal)

/-- **Building succeeds or names the first fault.** What comes of building from a list of entries is
the outcome that the entries have, and every grammar that is built is ready to be parsed with. -/
theorem building_names_first_fault (entries : List RuleEntry) (start : Option String)
    (comments : List Comment) :
    (∀ outcome, ofEntries entries start comments = outcome ↔
      Outcome entries start comments outcome) ∧
    ∀ grammar, ofEntries entries start comments = .ok grammar → grammar.Ready := by
  refine ⟨fun outcome => ⟨?_, Outcome.ofEntries_eq⟩, fun grammar _ => grammar.ready⟩
  rintro rfl
  exact outcome_ofEntries entries start comments

end

/-- Entries with several faults. `Head` has two entries, and both of them come before the entry of
`Tail`, which stands in front of them. -/
def faultyEntries : List RuleEntry :=
  [("Tail", [⟨["b", "(c", "Head"]⟩]), ("Head", [⟨["Tail", "a"]⟩]),
    ("Head", [⟨["a", "d)"]⟩, ⟨["(c"]⟩])]

/-- The rules that these entries add up to. -/
def faultyRules : Rules where
  entries := [("Head", [⟨["Tail", "a"]⟩, ⟨["a", "d)"]⟩, ⟨["(c"]⟩]),
    ("Tail", [⟨["b", "(c", "Head"]⟩])]
  ordered := by decide
  named := by simp

/-- The first symbol that is no pattern stands in the second entry of `Head`. An unknown start
symbol comes before it. -/
theorem building_names_first_fault_faultyEntries :
    ofEntries faultyEntries (some "Head") [] = .error (.invalidPattern "d)") ∧
      FirstOffender faultyEntries "d)" ∧
      ofEntries faultyEntries (some "Foot") [] = .error (.unknownStart "Foot") := by
  have hfault : ofEntries faultyEntries (some "Head") [] = .error (.invalidPattern "d)") := by
    have hrules : Rules.ofEntries faultyEntries = .ok faultyRules := by cbv
    have hfind : faultyRules.occurrences.find? (Table.isBad faultyRules) = some "d)" := by cbv
    rw [ofEntries_of_ok hrules]
    refine build_of_bad (fun symbol hsymbol => ?_) (Table.ofRules_eq_error_iff.2 ⟨_, hfind, rfl⟩)
    rw [← Option.some.inj hsymbol]
    decide
  have hunknown : Outcome faultyEntries (some "Foot") [] (.error (.unknownStart "Foot")) :=
    .unknownStart (by decide) rfl (by decide)
  refine ⟨hfault, ?_, ((building_names_first_fault faultyEntries _ []).1 _).2 hunknown⟩
  cases ((building_names_first_fault faultyEntries _ []).1 _).1 hfault with
  | invalidPattern _ _ hfirst => exact hfirst

end Grammar

end OrderedChoice
