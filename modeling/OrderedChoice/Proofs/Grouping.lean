import OrderedChoice.Pattern
import OrderedChoice.Proofs.Entries

/-!
# Rules group their entries

The order of expansions is the order in which they are tried, so it has to survive the way from a
list of entries into rules, where names are sorted and entries of one name are put together. It
does: a name has what its entries have, one entry after another in the order of the list, and it is
a nonterminal as soon as it has an entry, be it one without expansions. Nothing else of the list is
kept, so it does not matter how entries of different names are interleaved.

* `Rules.gathered` is what the entries of a name have in all.
* `Rules.Groups` says that rules give every name just that, and name the names in the order of
  their code points.
* `Rules.Interleaved` is the relation of two lists in which every name has the same entries in the
  same order.
* `Rules.grouping_is_faithful`: rules group the list they come from, and are told apart by names and
  by what is gathered for them.
-/

namespace OrderedChoice.Rules

variable {entries entries' : List RuleEntry} {name : String} {rules : Rules}

/-! ### The order of names -/

/-- The code points of a name. -/
def codePoints (name : String) : List Nat := name.toList.map Char.toNat

theorem map_toNat_lt_iff {text text' : List Char} :
    text.map Char.toNat < text'.map Char.toNat ↔ text < text' := by
  induction text generalizing text' with
  | nil => cases text' <;> simp
  | cons c cs ih =>
    cases text' with
    | nil => simp
    | cons d ds =>
      -- The order of characters is the one of their numbers by definition.
      have hlt : c.toNat < d.toNat ↔ c < d := Iff.rfl
      rw [List.map_cons, List.map_cons, List.cons_lt_cons_iff, List.cons_lt_cons_iff, ih, hlt,
        Char.toNat_inj]

/-- **Names are in the order of their code points.** -/
theorem codePoints_lt_iff {other : String} : codePoints name < codePoints other ↔ name < other := by
  rw [codePoints, codePoints, map_toNat_lt_iff, String.lt_iff]

/-! ### What is gathered for a name -/

/-- **What the entries of a name have in all**, in the order of the list. -/
def gathered (entries : List RuleEntry) (name : String) : List Expansion :=
  (entries.filter (·.1 = name)).flatMap (·.2)

theorem expansionsOf_of_mem (h : name ∈ entries.map (·.1)) :
    expansionsOf entries name = some (gathered entries name) := if_pos h

/-- A name is in a list exactly if it has entries there. -/
theorem mem_names_iff_filter_ne_nil :
    name ∈ entries.map (·.1) ↔ entries.filter (·.1 = name) ≠ [] := by
  rw [List.mem_map, Ne, List.filter_eq_nil_iff]
  simp only [decide_eq_true_eq, not_forall, not_not, exists_prop]

theorem gathered_of_not_mem (h : name ∉ entries.map (·.1)) : gathered entries name = [] := by
  rw [mem_names_iff_filter_ne_nil, not_not] at h
  rw [gathered, h, List.flatMap_nil]

/-- **What two lists give to names** is the same exactly if they have the same names and gather the
same for each of them. -/
theorem expansionsOf_eq_iff :
    (∀ name, expansionsOf entries name = expansionsOf entries' name) ↔
      (∀ name, name ∈ entries.map (·.1) ↔ name ∈ entries'.map (·.1)) ∧
        ∀ name, gathered entries name = gathered entries' name := by
  constructor
  · intro h
    have hnames : ∀ name, name ∈ entries.map (·.1) ↔ name ∈ entries'.map (·.1) := by
      intro name
      rw [← not_iff_not, ← expansionsOf_eq_none_iff, ← expansionsOf_eq_none_iff, h]
    refine ⟨hnames, fun name => ?_⟩
    by_cases hmem : name ∈ entries.map (·.1)
    · have hname := h name
      rw [expansionsOf_of_mem hmem, expansionsOf_of_mem ((hnames name).1 hmem)] at hname
      exact Option.some.inj hname
    · rw [gathered_of_not_mem hmem, gathered_of_not_mem (mt (hnames name).2 hmem)]
  · rintro ⟨hnames, hgathered⟩ name
    by_cases hmem : name ∈ entries.map (·.1)
    · rw [expansionsOf_of_mem hmem, expansionsOf_of_mem ((hnames name).1 hmem), hgathered]
    · rw [expansionsOf_eq_none_iff.2 hmem, expansionsOf_eq_none_iff.2 (mt (hnames name).2 hmem)]

/-! ### Rules of a list -/

/-- **Rules group a list of entries.** -/
structure Groups (rules : Rules) (entries : List RuleEntry) : Prop where
  /-- A name with entries has what they have in all, -/
  get?_of_mem : ∀ name ∈ entries.map (·.1), rules.get? name = some (gathered entries name)
  /-- and a name without entries is no nonterminal. -/
  get?_eq_none_iff : ∀ name, rules.get? name = none ↔ name ∉ entries.map (·.1)
  /-- The nonterminals are the names of the list, -/
  mem_nonterminals : ∀ name, name ∈ rules.nonterminals ↔ name ∈ entries.map (·.1)
  /-- in the order of their code points, and so none of them twice. -/
  increasing : rules.nonterminals.Pairwise fun name other => codePoints name < codePoints other
  /-- The rules go through the nonterminals in this order, each with what it has. -/
  entries_eq : rules.entries = rules.nonterminals.map fun name => (name, gathered entries name)

/-- **Rules that give every name what a list gives it** group the list. -/
theorem groups_of_get? (h : ∀ name, rules.get? name = expansionsOf entries name) :
    rules.Groups entries := by
  have hmem : ∀ name, name ∈ rules.nonterminals ↔ name ∈ entries.map (·.1) := by
    intro name
    rw [← not_iff_not, ← expansionsOf_eq_none_iff, ← h, ← contains_eq_false_iff, ← contains_iff,
      Bool.not_eq_true]
  have hgroup : ∀ name ∈ entries.map (·.1), rules.get? name = some (gathered entries name) :=
    fun name hname => (h name).trans (expansionsOf_of_mem hname)
  refine ⟨hgroup, fun name => by rw [h, expansionsOf_eq_none_iff], hmem, ?_, ?_⟩
  · rw [nonterminals, List.pairwise_map]
    exact rules.ordered.imp codePoints_lt_iff.2
  · have hentry : ∀ entry ∈ rules.entries, (entry.1, gathered entries entry.1) = entry := by
      intro entry hentry
      have hname : entry.1 ∈ rules.nonterminals := List.mem_map_of_mem hentry
      have hget : rules.get? entry.1 = some entry.2 := get?_eq_some_iff.2 hentry
      rw [hgroup _ ((hmem _).1 hname)] at hget
      rw [Option.some.inj hget]
    rw [nonterminals, List.map_map]
    exact ((List.map_congr_left hentry).trans (List.map_id _)).symm

/-- **Every name has the same entries in the same order** in both lists; how entries of different
names are interleaved may differ. -/
def Interleaved (entries entries' : List RuleEntry) : Prop :=
  ∀ name, entries.filter (·.1 = name) = entries'.filter (·.1 = name)

/-- Entries of different names that stand next to each other may change places. -/
theorem interleaved_swap {first second : RuleEntry} (h : first.1 ≠ second.1)
    (before after : List RuleEntry) :
    Interleaved (before ++ first :: second :: after) (before ++ second :: first :: after) := by
  intro name
  rw [List.filter_append, List.filter_append]
  refine congrArg (before.filter _ ++ ·) ?_
  -- At most one of the two has the name.
  by_cases hfirst : first.1 = name
  · have hsecond : second.1 ≠ name := fun hsecond => h (hfirst.trans hsecond.symm)
    simp [hfirst, hsecond]
  · by_cases hsecond : second.1 = name <;> simp [hfirst, hsecond]

theorem Interleaved.expansionsOf_eq (h : Interleaved entries entries') :
    ∀ name, expansionsOf entries name = expansionsOf entries' name := by
  refine expansionsOf_eq_iff.2 ⟨fun name => ?_, fun name => ?_⟩
  · rw [mem_names_iff_filter_ne_nil, mem_names_iff_filter_ne_nil, h]
  · rw [gathered, gathered, h]

/-- **Collecting rules groups the entries** of a list in which no name is empty: no expansion is
lost, and those of one name stay in their order. Two such lists have equal rules exactly if they
have the same names and gather the same for each of them. In particular, entries of different names
can be interleaved in any order: the rules are the same, and so is the grammar that is built, with
all its parses. -/
theorem grouping_is_faithful [PatternEngine] (h : "" ∉ entries.map (·.1)) :
    (∃ rules, ofEntries entries = .ok rules ∧ rules.Groups entries) ∧
      (∀ entries' : List RuleEntry, "" ∉ entries'.map (·.1) →
        (ofEntries entries = ofEntries entries' ↔
          (∀ name, name ∈ entries.map (·.1) ↔ name ∈ entries'.map (·.1)) ∧
            ∀ name, gathered entries name = gathered entries' name)) ∧
      ∀ entries', Interleaved entries entries' → ofEntries entries = ofEntries entries' ∧
        ∀ start comments, Grammar.ofEntries entries start comments =
          Grammar.ofEntries entries' start comments := by
  have hexists : ∀ {entries}, "" ∉ entries.map (·.1) → ∃ rules, ofEntries entries = .ok rules ∧
      ∀ name, rules.get? name = expansionsOf entries name := by
    intro entries h
    cases hresult : ofEntries entries with
    | error e => exact absurd (ofEntries_eq_error_iff.1 hresult).2 h
    | ok rules => exact ⟨rules, rfl, (ofEntries_eq_ok_iff.1 hresult).2⟩
  obtain ⟨rules, hrules, hget⟩ := hexists h
  refine ⟨⟨rules, hrules, groups_of_get? hget⟩, fun entries' h' => ?_, fun entries' h' => ?_⟩
  · rw [← expansionsOf_eq_iff]
    refine ⟨fun heq name => ?_, ofEntries_congr⟩
    obtain ⟨rules', hrules', hget'⟩ := hexists h'
    obtain rfl := Except.ok.inj (hrules.symm.trans (heq.trans hrules'))
    exact (hget name).symm.trans (hget' name)
  · have heq := ofEntries_congr h'.expansionsOf_eq
    refine ⟨heq, fun start comments => ?_⟩
    rw [Grammar.ofEntries, Grammar.ofEntries, heq]

/-- Entries for words, the first of them without expansions, with one for rows in between. -/
def scatteredEntries : List RuleEntry :=
  [("Word", []), ("Word", [⟨["a"]⟩]), ("Row", [⟨["Word", "Row"]⟩, ⟨[]⟩]), ("Word", [⟨["b"]⟩])]

/-- The entry for rows may move; the entries for words may not change places. -/
theorem grouping_is_faithful_scattered :
    "" ∉ scatteredEntries.map (·.1) ∧
      (∃ rules, ofEntries scatteredEntries = .ok rules ∧
        rules.get? "Word" = some [⟨["a"]⟩, ⟨["b"]⟩]) ∧
      ofEntries scatteredEntries = ofEntries
        [("Word", []), ("Row", [⟨["Word", "Row"]⟩, ⟨[]⟩]), ("Word", [⟨["a"]⟩]),
          ("Word", [⟨["b"]⟩])] ∧
      ofEntries scatteredEntries ≠ ofEntries
        [("Row", [⟨["Word", "Row"]⟩, ⟨[]⟩]), ("Word", [⟨["b"]⟩]), ("Word", [⟨["a"]⟩])] := by
  have hnamed : "" ∉ scatteredEntries.map (·.1) := by decide
  obtain ⟨⟨rules, hrules, hgroups⟩, hequal, hinterleaved⟩ := grouping_is_faithful hnamed
  refine ⟨hnamed, ⟨rules, hrules, hgroups.get?_of_mem "Word" (by decide)⟩, ?_, fun heq => ?_⟩
  · exact (hinterleaved _ (interleaved_swap (by decide) [("Word", [])] [("Word", [⟨["b"]⟩])])).1
  · have hgathered := ((hequal _ (by decide)).1 heq).2 "Word"
    exact absurd hgathered (by decide)

end OrderedChoice.Rules
