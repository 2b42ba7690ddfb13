import Mathlib.Data.List.Basic
import OrderedChoice.Grammar.Basic

/-!
# Names and numbers of symbols

The symbol table of a grammar lists the names of its symbols, each of them once, and a symbol has
its place in that list as its number. So a number and a name say the same about a symbol:

* `Table.names_nodup` and `Table.mem_names`: the names are those of the nonterminals and of the
  symbols in their expansions, none of them twice.
* `Grammar.build_eq_ok_iff`: every grammar is built from its rules, start symbol and comments.
* `Grammar.get?_idxOf`: the number of a name leads to the symbol of that name, as `Table.resolve`
  gives it.
* `Grammar.idOf?_eq_some_iff`: looking up a name gives that number.
* `Grammar.compiles_iff`: a symbol of the table is a terminal exactly if it has no rules, and then
  its pattern is what its name is read as.
-/

namespace OrderedChoice

/-- **The nonterminals** are the names that have rules. -/
theorem Rules.contains_iff {rules : Rules} {name : String} :
    rules.contains name = true ↔ name ∈ rules.nonterminals := by
  rw [contains, get?, List.lookup_isSome_iff]
  simp only [nonterminals, List.mem_map, beq_iff_eq]
  exact exists_congr fun entry => and_congr_right fun _ => eq_comm

theorem Rules.contains_of_get? {rules : Rules} {name : String} {expansions : List Expansion}
    (h : rules.get? name = some expansions) : rules.contains name = true := by
  rw [contains, h, Option.isSome_some]

theorem Rules.contains_eq_false_iff {rules : Rules} {name : String} :
    rules.contains name = false ↔ rules.get? name = none := by
  rw [contains, Option.isSome_eq_false_iff, Option.isNone_iff_eq_none]

/-- **The rules of a nonterminal** are its entry: the names increase, so there is one only. -/
theorem Rules.get?_eq_some_iff {rules : Rules} {name : String} {expansions : List Expansion} :
    rules.get? name = some expansions ↔ (name, expansions) ∈ rules.entries := by
  rw [get?, List.lookup_eq_some_iff]
  constructor
  · rintro ⟨before, after, hentries, -⟩
    rw [hentries]
    exact List.mem_append_right _ List.mem_cons_self
  · intro hmem
    obtain ⟨before, after, hentries⟩ := List.append_of_mem hmem
    refine ⟨before, after, hentries, fun entry hentry => ?_⟩
    -- An entry in front has a name that is less.
    have hordered := rules.ordered
    rw [hentries, List.pairwise_append] at hordered
    have hlt : entry.1 < name := hordered.2.2 entry hentry _ List.mem_cons_self
    simpa using (Std.ne_of_lt hlt).symm

namespace Table

/-! ### Names -/

theorem mem_distinct {name : String} {seen rest : List String} :
    name ∈ distinct seen rest ↔ name ∈ rest ∧ name ∉ seen := by
  induction rest generalizing seen with
  | nil => simp [distinct]
  | cons head rest ih =>
    rw [distinct]
    split
    · -- A name that has been seen is left out, and is excluded on the right side, too.
      next hseen =>
      have hmem : head ∈ seen := List.contains_iff_mem.1 hseen
      rw [ih, List.mem_cons]
      constructor
      · rintro ⟨hrest, hnot⟩
        exact ⟨.inr hrest, hnot⟩
      · rintro ⟨rfl | hrest, hnot⟩
        · exact absurd hmem hnot
        · exact ⟨hrest, hnot⟩
    · -- A new name is listed, and counts as seen from here on.
      next hseen =>
      have hmem : head ∉ seen := fun h => hseen (List.contains_iff_mem.2 h)
      rw [List.mem_cons, List.mem_cons, ih, List.mem_cons, not_or]
      constructor
      · rintro (rfl | ⟨hrest, -, hnot⟩)
        · exact ⟨.inl rfl, hmem⟩
        · exact ⟨.inr hrest, hnot⟩
      · rintro ⟨rfl | hrest, hnot⟩
        · exact .inl rfl
        · by_cases heq : name = head
          · exact .inl heq
          · exact .inr ⟨hrest, heq, hnot⟩

theorem distinct_nodup (seen rest : List String) : (distinct seen rest).Nodup := by
  induction rest generalizing seen with
  | nil => exact List.nodup_nil
  | cons head rest ih =>
    rw [distinct]
    split
    · exact ih seen
    · -- The names behind it are none that have been seen, and it has been.
      refine List.nodup_cons.2 ⟨fun hmem => ?_, ih _⟩
      exact (mem_distinct.1 hmem).2 List.mem_cons_self

/-- **No name is listed twice.** -/
theorem names_nodup (rules : Rules) : (names rules).Nodup := distinct_nodup _ _

/-- **The names** are those of the nonterminals and of the symbols in their expansions. -/
theorem mem_names {rules : Rules} {name : String} :
    name ∈ names rules ↔ name ∈ rules.nonterminals ∨ name ∈ rules.occurrences := by
  rw [names, mem_distinct, List.mem_append]
  simp only [List.not_mem_nil, not_false_eq_true, and_true]

theorem mem_names_of_contains {rules : Rules} {name : String} (h : rules.contains name = true) :
    name ∈ names rules :=
  mem_names.2 (.inl (Rules.contains_iff.1 h))

/-- The symbols of an expansion are listed. -/
theorem mem_names_of_mem_symbols {rules : Rules} {nonterminal name : String}
    {expansions : List Expansion} {expansion : Expansion}
    (hget : rules.get? nonterminal = some expansions) (hmem : expansion ∈ expansions)
    (hname : name ∈ expansion.symbols) : name ∈ names rules := by
  refine mem_names.2 (.inr ?_)
  rw [Rules.occurrences]
  simp only [List.mem_flatMap]
  exact ⟨(nonterminal, expansions), Rules.get?_eq_some_iff.1 hget, expansion, hmem, hname⟩

/-! ### Symbols -/

variable [PatternEngine]

theorem resolve_name {rules : Rules} {names : List String} {name : String} {symbol : Symbol}
    (h : resolve rules names name = .ok symbol) : symbol.name = name := by
  rw [resolve] at h
  split at h
  · rw [← Except.ok.inj h]
  · split at h
    · rw [← Except.ok.inj h]
    · cases h

/-- The symbols of a list of names are what each name stands for. -/
theorem resolveAll_eq_ok {rules : Rules} {names list : List String} {symbols : List Symbol}
    (h : resolveAll rules names list = .ok symbols) :
    symbols.map (·.name) = list ∧
      ∀ symbol ∈ symbols, resolve rules names symbol.name = .ok symbol := by
  induction list generalizing symbols with
  | nil =>
    rw [← Except.ok.inj h]
    exact ⟨rfl, fun symbol hmem => absurd hmem List.not_mem_nil⟩
  | cons name list ih =>
    rw [resolveAll] at h
    split at h
    · cases h
    · next head hhead =>
      split at h
      · cases h
      · next tail htail =>
        obtain ⟨hmap, hall⟩ := ih htail
        have hname := resolve_name hhead
        rw [← Except.ok.inj h]
        refine ⟨by rw [List.map_cons, hmap, hname], fun symbol hmem => ?_⟩
        rcases List.mem_cons.1 hmem with rfl | hmem
        · rw [hname]
          exact hhead
        · exact hall symbol hmem

end Table

namespace Grammar

variable [PatternEngine]

/-- **Every grammar is one that is built**, from its own rules, start symbol and comments. -/
theorem build_eq_ok_iff {rules : Rules} {start : Option String} {comments : List Comment}
    {grammar : Grammar} :
    build rules start comments = .ok grammar ↔
      grammar.rules = rules ∧ grammar.start = start ∧ grammar.comments = comments := by
  constructor
  · intro h
    rw [build] at h
    split at h
    · cases h
    · split at h
      · cases h
      · rw [← Except.ok.inj h]
        exact ⟨rfl, rfl, rfl⟩
  · rintro ⟨rfl, rfl, rfl⟩
    rw [build]
    split
    · -- The start symbol of a grammar has rules.
      next symbol hstart =>
      obtain ⟨hsymbol, hrules⟩ := Option.filter_eq_some_iff.1 hstart
      rw [grammar.start_mem symbol hsymbol] at hrules
      cases hrules
    · -- The table is the one of the rules, so there is no choice in it.
      have htable := grammar.table_eq
      split
      · next e he =>
        rw [he] at htable
        cases htable
      · next table hok =>
        rw [hok] at htable
        obtain rfl := Except.ok.inj htable
        rfl

/-- Rules with a table are built, if the start symbol is one of their nonterminals. -/
theorem exists_build {rules : Rules} {start : Option String} {table : Table}
    (comments : List Comment)
    (hstart : ∀ symbol, start = some symbol → rules.contains symbol = true)
    (htable : Table.ofRules rules = .ok table) :
    ∃ grammar, build rules start comments = .ok grammar :=
  ⟨⟨rules, start, comments, table, hstart, htable⟩, build_eq_ok_iff.2 ⟨rfl, rfl, rfl⟩⟩

variable (grammar : Grammar)

/-- The symbols of the table have the listed names, and each is what its name stands for. -/
theorem table_symbols :
    grammar.table.symbols.toList.map (·.name) = Table.names grammar.rules ∧
      ∀ symbol ∈ grammar.table.symbols.toList,
        Table.resolve grammar.rules (Table.names grammar.rules) symbol.name = .ok symbol := by
  have htable := grammar.table_eq
  rw [Table.ofRules] at htable
  split at htable
  · cases htable
  · next symbols hsymbols =>
    rw [← Except.ok.inj htable]
    exact Table.resolveAll_eq_ok hsymbols

variable {grammar}

/-- **A name's number leads to what the name stands for.** -/
theorem get?_idxOf {name : String} (hname : name ∈ Table.names grammar.rules) :
    ∃ symbol, grammar.table.get? ((Table.names grammar.rules).idxOf name) = some symbol ∧
      Table.resolve grammar.rules (Table.names grammar.rules) name = .ok symbol := by
  obtain ⟨hnames, hresolve⟩ := grammar.table_symbols
  -- The list of names has the name at that number, and the list of symbols is as long.
  have hat := List.getElem?_idxOf hname
  rw [← hnames, List.getElem?_map] at hat
  obtain ⟨symbol, hsymbol, rfl⟩ := Option.map_eq_some_iff.1 hat
  rw [hnames] at hsymbol
  refine ⟨symbol, ?_, hresolve symbol (List.mem_of_getElem? hsymbol)⟩
  rw [Table.get?, ← Array.getElem?_toList]
  exact hsymbol

/-- **Looking up a name gives its number.** -/
theorem idOf?_eq_some_iff {name : String} {id : Nat} :
    grammar.table.idOf? name = some id ↔
      name ∈ Table.names grammar.rules ∧ (Table.names grammar.rules).idxOf name = id := by
  have hidOf : grammar.table.idOf? name = (Table.names grammar.rules).idxOf? name := by
    rw [Table.idOf?, ← grammar.table_symbols.1, List.idxOf?, List.findIdx?_map,
      ← List.findIdx?_toArray, Array.toArray_toList]
    congr 1
  rw [hidOf, List.idxOf?_eq_some_iff]
  constructor
  · -- No name is listed twice, so the first place of a name is its only one.
    rintro ⟨hlt, rfl, -⟩
    exact ⟨List.getElem_mem hlt, (Table.names_nodup grammar.rules).idxOf_getElem id hlt⟩
  · rintro ⟨hmem, rfl⟩
    refine ⟨List.idxOf_lt_length_iff.2 hmem, List.getElem_idxOf _, fun j hj heq => ?_⟩
    exact ne_of_beq_false (List.not_of_lt_findIdx hj) heq

/-- A symbol with rules is a nonterminal. -/
theorem isNonterminal_of_get? {name : String} {expansions : List Expansion}
    (hget : grammar.rules.get? name = some expansions) : grammar.isNonterminal name = true :=
  Rules.contains_of_get? hget

/-- **A symbol is compiled to a pattern**: the table has it as a terminal with that pattern. -/
def Compiles (grammar : Grammar) (name : String) (pattern : Pattern) : Prop :=
  ∃ id, grammar.table.idOf? name = some id ∧
    grammar.table.get? id = some ⟨name, .terminal pattern⟩

/-- **The terminals** are the symbols without rules, each compiled to the pattern that its name
is. -/
theorem compiles_iff {name : String} {pattern : Pattern}
    (hname : name ∈ Table.names grammar.rules) :
    grammar.Compiles name pattern ↔
      grammar.rules.get? name = none ∧ Pattern.ofText? name.toList = some pattern := by
  obtain ⟨symbol, hsymbol, hresolve⟩ := get?_idxOf hname
  -- The table has one symbol of that name, so being compiled is a statement about that symbol.
  have hcompiles : grammar.Compiles name pattern ↔ symbol = ⟨name, .terminal pattern⟩ := by
    constructor
    · rintro ⟨id, hid, hget⟩
      obtain ⟨-, rfl⟩ := idOf?_eq_some_iff.1 hid
      rw [hsymbol] at hget
      exact Option.some.inj hget
    · rintro rfl
      exact ⟨_, idOf?_eq_some_iff.2 ⟨hname, rfl⟩, hsymbol⟩
  rw [hcompiles]
  rw [Table.resolve] at hresolve
  split at hresolve
  · next expansions hget =>
    -- With rules the symbol is a nonterminal, and neither side holds.
    rw [← Except.ok.inj hresolve, hget]
    constructor
    · intro h
      cases (Symbol.mk.inj h).2
    · rintro ⟨h, -⟩
      cases h
  · next hget =>
    split at hresolve
    · next compiled hcompiled =>
      rw [← Except.ok.inj hresolve, hcompiled]
      constructor
      · intro h
        rw [Meaning.terminal.inj (Symbol.mk.inj h).2]
        exact ⟨hget, rfl⟩
      · rintro ⟨-, h⟩
        rw [Option.some.inj h]
    · cases hresolve

theorem Compiles.mem_names {name : String} {pattern : Pattern} (h : grammar.Compiles name pattern) :
    name ∈ Table.names grammar.rules := by
  obtain ⟨id, hid, -⟩ := h
  exact (idOf?_eq_some_iff.1 hid).1

/-- A terminal has no rules. -/
theorem Compiles.get?_eq_none {name : String} {pattern : Pattern}
    (h : grammar.Compiles name pattern) : grammar.rules.get? name = none :=
  ((compiles_iff h.mem_names).1 h).1

theorem Compiles.isNonterminal_eq_false {name : String} {pattern : Pattern}
    (h : grammar.Compiles name pattern) : grammar.isNonterminal name = false :=
  Rules.contains_eq_false_iff.2 h.get?_eq_none

end Grammar

end OrderedChoice
