import OrderedChoice.Proofs.Construction
import OrderedChoice.Proofs.InRange
import OrderedChoice.Proofs.Replacement

/-!
# A symbol table is made in one pass

The table of a grammar is specified by the list of all names. It can be made in one pass over the
rules, too: first the nonterminals are declared, with their expansions left open, then the rules are
gone through, a name that is new gets the next number and is compiled at once, and the expansions of
a nonterminal are put in its place when all their symbols have numbers. Here is this pass, with an
index from names to numbers beside the symbols, and it makes the same table.

* `Registry.Records`: what holds of the registry while the pass is under way.
* `Registry.intern_gives`, `Registry.enter_gives`: what one symbol and one entry do to it.
* `Registry.ofRules_gives`: what the whole pass does, whether it fails or not.
* `Registry.ofRules_eq`: so it makes the table, or fails with the same error.
* `Grammar.table_is_faithful`: names and numbers of a table are inverse to each other, and every
  symbol is what the rules say of its name.
-/

namespace OrderedChoice

/-! ### The pass over the rules -/

section

variable [PatternEngine]

/-- **Registry of symbols**: the symbols so far, and the numbers of their names. -/
structure Registry where
  /-- The symbols; a symbol's number is its place. -/
  symbols : Array Symbol
  /-- The names with their numbers, the latest one first. -/
  index : List (String × Nat)

namespace Registry

/-- **Registering** reads and changes the registry, or fails. -/
abbrev Registering := StateT Registry (Except Error)

/-- The names of the symbols, in the order of their numbers. -/
def names (registry : Registry) : List String := registry.symbols.toList.map (·.name)

/-- Adds a symbol with the next number. -/
def add (registry : Registry) (symbol : Symbol) : Registry :=
  ⟨registry.symbols.push symbol, (symbol.name, registry.symbols.size) :: registry.index⟩

/-- **Declares nonterminals**, with their expansions left open. -/
def declare (names : List String) : Registry :=
  names.foldl (fun registry name => registry.add ⟨name, .nonterminal []⟩) ⟨#[], []⟩

/-- **Number of a name.** A name that is new is compiled as a terminal. -/
def intern (name : String) : Registering Nat := fun registry =>
  match registry.index.lookup name with
  | some id => .ok (id, registry)
  | none =>
    match Pattern.ofText? name.toList with
    | some pattern => .ok (registry.symbols.size, registry.add ⟨name, .terminal pattern⟩)
    | none => .error (.invalidPattern name)

/-- **Puts the expansions of a nonterminal in its place.** -/
def define (name : String) (expansions : List (List Nat)) (registry : Registry) : Registry :=
  match registry.index.lookup name with
  | some id => { registry with
      symbols := registry.symbols.modify id fun symbol =>
        { symbol with meaning := .nonterminal expansions } }
  | none => registry

/-- **Enters a nonterminal** with its expansions. -/
def enter (entry : RuleEntry) : Registering Unit := do
  let expansions ← entry.2.mapM fun expansion => expansion.symbols.mapM intern
  modify (define entry.1 expansions)

/-- **Registry of rules**: all nonterminals are declared, and then entered in their order. -/
def ofRules (rules : Rules) : Except Error Registry := do
  let (_, registry) ← (rules.entries.forM enter).run (declare rules.nonterminals)
  return registry

/-! ### The index -/

/-- **The index is right**: a name has the number of its place. -/
def Indexed (registry : Registry) : Prop :=
  ∀ name id, registry.index.lookup name = some id ↔ registry.names[id]? = some name

theorem length_names (registry : Registry) : registry.names.length = registry.symbols.size := by
  rw [names, List.length_map, Array.length_toList]

theorem names_add (registry : Registry) (symbol : Symbol) :
    (registry.add symbol).names = registry.names ++ [symbol.name] := by
  rw [add, names, names, Array.toList_push, List.map_append, List.map_singleton]

theorem lookup_add (registry : Registry) (symbol : Symbol) (name : String) :
    (registry.add symbol).index.lookup name =
      if name = symbol.name then some registry.names.length else registry.index.lookup name := by
  rw [length_names, add]
  by_cases heq : name = symbol.name
  · rw [if_pos heq, heq, List.lookup_cons_self]
  · rw [if_neg heq, List.lookup_cons, beq_false_of_ne heq]

variable {registry : Registry}

theorem Indexed.add {symbol : Symbol} (h : registry.Indexed) (hnew : symbol.name ∉ registry.names) :
    (registry.add symbol).Indexed := by
  intro name id
  rw [names_add, lookup_add]
  by_cases heq : name = symbol.name
  · -- The name of the new symbol stands at the end, and nowhere else.
    rw [if_pos heq, heq, Option.some.injEq]
    constructor
    · rintro rfl
      exact List.getElem?_concat_length
    · intro hat
      rcases Nat.lt_or_ge id registry.names.length with hlt | hge
      · rw [List.getElem?_append_left hlt] at hat
        exact absurd (List.mem_of_getElem? hat) hnew
      · have hlt := (List.getElem?_eq_some_iff.1 hat).1
        rw [List.length_append, List.length_singleton] at hlt
        omega
  · rw [if_neg heq, h name id]
    rcases Nat.lt_or_ge id registry.names.length with hlt | hge
    · rw [List.getElem?_append_left hlt]
    · -- Behind the names there is only the new one.
      rw [List.getElem?_append_right hge, List.getElem?_eq_none hge]
      refine ⟨nofun, fun hat => absurd (List.mem_of_getElem? hat) ?_⟩
      exact mt List.mem_singleton.1 heq

theorem declare_concat (names : List String) (name : String) :
    declare (names ++ [name]) = (declare names).add ⟨name, .nonterminal []⟩ := by
  rw [declare, List.foldl_append]
  rfl

theorem names_declare (names : List String) : (declare names).names = names := by
  induction names using List.reverseRecOn with
  | nil => rfl
  | append_singleton names name ih => rw [declare_concat, names_add, ih]

theorem indexed_declare {names : List String} (h : names.Nodup) : (declare names).Indexed := by
  induction names using List.reverseRecOn with
  | nil => exact fun name id => ⟨nofun, nofun⟩
  | append_singleton names name ih =>
    obtain ⟨hnames, -, hdisjoint⟩ := List.nodup_append.1 h
    rw [declare_concat]
    refine (ih hnames).add fun hmem => ?_
    rw [names_declare] at hmem
    exact hdisjoint name hmem name List.mem_cons_self rfl

/-- Nonterminals that are declared have no expansions. -/
theorem meaning_of_mem_declare {names : List String} {symbol : Symbol}
    (h : symbol ∈ (declare names).symbols.toList) : symbol.meaning = .nonterminal [] := by
  induction names using List.reverseRecOn with
  | nil => cases h
  | append_singleton names name ih =>
    rw [declare_concat, add, Array.toList_push] at h
    rcases List.mem_append.1 h with h | h
    · exact ih h
    · rw [List.mem_singleton.1 h]

end Registry

end

/-! ### Names in the order of the pass -/

namespace Table

/-- What is left out of a list depends on which names have been seen, not on their order. -/
theorem distinct_congr {seen seen' list : List String} (h : ∀ name, name ∈ seen ↔ name ∈ seen') :
    distinct seen list = distinct seen' list := by
  induction list generalizing seen seen' with
  | nil => rfl
  | cons name list ih =>
    have hcontains : seen.contains name = seen'.contains name := by
      rw [Bool.eq_iff_iff, List.contains_iff_mem, List.contains_iff_mem, h]
    have hcons : distinct (name :: seen) list = distinct (name :: seen') list :=
      ih fun other => by rw [List.mem_cons, List.mem_cons, h]
    rw [distinct, distinct, hcontains, ih h, hcons]

theorem distinct_cons_of_mem {seen list : List String} {name : String} (h : name ∈ seen) :
    distinct seen (name :: list) = distinct seen list := by
  rw [distinct, if_pos (List.contains_iff_mem.2 h)]

theorem distinct_cons_of_not_mem {seen list : List String} {name : String} (h : name ∉ seen) :
    distinct seen (name :: list) = name :: distinct (seen ++ [name]) list := by
  rw [distinct, if_neg (mt List.contains_iff_mem.1 h)]
  congr 1
  refine distinct_congr fun other => ?_
  rw [List.mem_cons, List.mem_append, List.mem_singleton, or_comm]

/-- Names that are all new and different are listed as they are. -/
theorem distinct_append {seen front list : List String} (hfront : front.Nodup)
    (hnew : ∀ name ∈ front, name ∉ seen) :
    distinct seen (front ++ list) = front ++ distinct (seen ++ front) list := by
  induction front generalizing seen with
  | nil => rw [List.nil_append, List.nil_append, List.append_nil]
  | cons name front ih =>
    obtain ⟨hname, hfront⟩ := List.nodup_cons.1 hfront
    rw [List.cons_append, distinct_cons_of_not_mem (hnew name List.mem_cons_self), ih hfront,
      List.append_assoc, List.singleton_append, List.cons_append]
    intro other hother hseen
    rcases List.mem_append.1 hseen with hseen | hseen
    · exact hnew other (List.mem_cons_of_mem name hother) hseen
    · exact hname (List.mem_singleton.1 hseen ▸ hother)

/-- The nonterminals have the first numbers. -/
theorem names_eq_append (rules : Rules) :
    names rules = rules.nonterminals ++ distinct rules.nonterminals rules.occurrences := by
  have hnodup : rules.nonterminals.Nodup :=
    List.pairwise_map.2 (rules.ordered.imp fun hlt => (Std.ne_of_lt hlt))
  rw [names, distinct_append hnodup fun _ _ => List.not_mem_nil, List.nil_append]

/-- Symbols that are what their names stand for are the symbols of these names. -/
theorem resolveAll_map_name [PatternEngine] {rules : Rules} {names : List String}
    {symbols : List Symbol}
    (h : ∀ symbol ∈ symbols, resolve rules names symbol.name = .ok symbol) :
    resolveAll rules names (symbols.map (·.name)) = .ok symbols := by
  induction symbols with
  | nil => rfl
  | cons symbol symbols ih =>
    obtain ⟨hsymbol, hsymbols⟩ := List.forall_mem_cons.1 h
    rw [List.map_cons, resolveAll, hsymbol, ih hsymbols]

end Table

namespace Registry

variable [PatternEngine]

/-! ### What holds while the pass is under way -/

variable {rules : Rules} {written ahead : List String} {registry : Registry} {name : String}

/-- **A symbol is drafted**: it is what its name stands for, but a nonterminal has no expansions
before they are written. -/
def Drafted (rules : Rules) (written : List String) (symbol : Symbol) : Prop :=
  if rules.contains symbol.name = true ∧ symbol.name ∉ written then symbol.meaning = .nonterminal []
  else Table.resolve rules (Table.names rules) symbol.name = .ok symbol

/-- **The registry records rules**: the expansions of some nonterminals are written, and some
symbols are still ahead. -/
structure Records (rules : Rules) (written ahead : List String) (registry : Registry) : Prop where
  /-- The index is right. -/
  indexed : registry.Indexed
  /-- Every nonterminal has been declared. -/
  declared : ∀ name, rules.contains name = true → name ∈ registry.names
  /-- Every symbol is drafted. -/
  drafted : ∀ symbol ∈ registry.symbols.toList, Drafted rules written symbol
  /-- The names are the first ones of the table, and what is ahead has the others. -/
  names_eq : Table.names rules = registry.names ++ Table.distinct registry.names ahead

/-- In the beginning the nonterminals are declared, and all symbols of the rules are ahead. -/
theorem records_declare (rules : Rules) :
    Records rules [] rules.occurrences (declare rules.nonterminals) where
  indexed := by
    refine indexed_declare ?_
    have hnodup := Table.names_nodup rules
    rw [Table.names_eq_append] at hnodup
    exact (List.nodup_append.1 hnodup).1
  declared name hname := by
    rw [names_declare]
    exact Rules.contains_iff.1 hname
  drafted symbol hsymbol := by
    have hname : symbol.name ∈ (declare rules.nonterminals).names :=
      List.mem_map_of_mem hsymbol
    rw [names_declare] at hname
    rw [Drafted, if_pos ⟨Rules.contains_iff.2 hname, List.not_mem_nil⟩]
    exact meaning_of_mem_declare hsymbol
  names_eq := by
    rw [names_declare]
    exact Table.names_eq_append rules

/-- A name that has been registered has its number in the table. -/
theorem Records.lookup_eq (h : Records rules written ahead registry) {id : Nat}
    (hid : registry.index.lookup name = some id) : id = (Table.names rules).idxOf name := by
  have hat := (h.indexed name id).1 hid
  obtain ⟨hlt, hname⟩ := List.getElem?_eq_some_iff.1 hat
  have hmem := List.mem_of_getElem? hat
  rw [h.names_eq, List.idxOf_append_of_mem hmem, ← hname]
  have hnodup := Table.names_nodup rules
  rw [h.names_eq] at hnodup
  exact ((List.nodup_append.1 hnodup).1.idxOf_getElem id hlt).symm

theorem Indexed.mem_names_of_lookup (h : registry.Indexed) {id : Nat}
    (hid : registry.index.lookup name = some id) : name ∈ registry.names :=
  List.mem_of_getElem? ((h name id).1 hid)

theorem Indexed.not_mem_names_of_lookup (h : registry.Indexed)
    (hnone : registry.index.lookup name = none) : name ∉ registry.names := by
  intro hmem
  obtain ⟨id, hat⟩ := List.mem_iff_getElem?.1 hmem
  rw [(h name id).2 hat] at hnone
  cases hnone

/-- A symbol that is registered already may be mentioned again. -/
theorem Records.again (h : Records rules written (name :: ahead) registry)
    (hmem : name ∈ registry.names) : Records rules written ahead registry where
  indexed := h.indexed
  declared := h.declared
  drafted := h.drafted
  names_eq := by rw [← Table.distinct_cons_of_mem hmem]; exact h.names_eq

/-- A symbol that is new and a pattern is registered as a terminal. -/
theorem Records.add (h : Records rules written (name :: ahead) registry)
    (hnew : name ∉ registry.names) {pattern : Pattern}
    (hpattern : Pattern.ofText? name.toList = some pattern) :
    Records rules written ahead (registry.add ⟨name, .terminal pattern⟩) where
  indexed := h.indexed.add hnew
  declared other hother := by
    rw [names_add]
    exact List.mem_append_left _ (h.declared other hother)
  drafted symbol hsymbol := by
    rw [Registry.add, Array.toList_push] at hsymbol
    rcases List.mem_append.1 hsymbol with hsymbol | hsymbol
    · exact h.drafted symbol hsymbol
    · -- The new symbol is no nonterminal, since these have been declared.
      rw [List.mem_singleton.1 hsymbol]
      have hterminal : ¬ rules.contains name = true := mt (h.declared name) hnew
      rw [Drafted, if_neg fun hboth => hterminal hboth.1, Table.resolve,
        Option.not_isSome_iff_eq_none.1 hterminal, hpattern]
  names_eq := by
    rw [names_add, List.append_assoc, List.singleton_append,
      ← Table.distinct_cons_of_not_mem hnew]
    exact h.names_eq

/-- A symbol that is new gets the next number. -/
theorem Records.idxOf_eq (h : Records rules written (name :: ahead) registry)
    (hnew : name ∉ registry.names) : (Table.names rules).idxOf name = registry.symbols.size := by
  rw [h.names_eq, Table.distinct_cons_of_not_mem hnew, List.idxOf_append_of_notMem hnew,
    List.idxOf_cons_self, Nat.add_zero, length_names]

/-- What is registered is not bad. -/
theorem Records.isBad_eq_false (h : Records rules written ahead registry)
    (hmem : name ∈ registry.names) : Table.isBad rules name = false := by
  obtain ⟨symbol, hsymbol, rfl⟩ := List.mem_map.1 hmem
  have hdrafted := h.drafted symbol hsymbol
  unfold Drafted at hdrafted
  split at hdrafted
  · next hboth => exact Table.isBad_of_contains hboth.1
  · rcases Table.resolve_cases rules (Table.names rules) symbol.name with ⟨-, herror⟩ | ⟨hgood, -⟩
    · rw [herror] at hdrafted
      cases hdrafted
    · exact hgood

/-! ### Writing expansions -/

theorem symbols_define {id : Nat} (hid : registry.index.lookup name = some id)
    (expansions : List (List Nat)) :
    (define name expansions registry).symbols.toList =
      registry.symbols.toList.modify id fun symbol =>
        { symbol with meaning := .nonterminal expansions } := by
  rw [define, hid]
  exact Array.toList_modify

theorem names_define (name : String) (expansions : List (List Nat)) (registry : Registry) :
    (define name expansions registry).names = registry.names := by
  cases hid : registry.index.lookup name with
  | none => rw [define, hid]
  | some id =>
    rw [names, symbols_define hid, names]
    refine List.ext_getElem? fun i => ?_
    rw [List.getElem?_map, List.getElem?_modify, List.getElem?_map, Option.map_eq_map,
      Option.map_map]
    congr 1
    funext symbol
    rw [Function.comp_apply]
    split <;> rfl

theorem index_define (name : String) (expansions : List (List Nat)) (registry : Registry) :
    (define name expansions registry).index = registry.index := by
  rw [define]
  split <;> rfl

/-- **A nonterminal is what its name stands for** when its expansions have been written, and no
other symbol changes. -/
theorem Records.define {expansions : List Expansion} (h : Records rules written ahead registry)
    (hget : rules.get? name = some expansions) :
    Records rules (name :: written) ahead
      (define name (Table.number (Table.names rules) expansions) registry) where
  indexed other id := by
    rw [index_define, names_define]
    exact h.indexed other id
  declared other hother := by
    rw [names_define]
    exact h.declared other hother
  drafted symbol hsymbol := by
    obtain ⟨id, hat⟩ := List.mem_iff_getElem?.1 (h.declared name (Rules.contains_of_get? hget))
    have hid := (h.indexed name id).2 hat
    -- Let `i` be the number of the symbol; before, there was a symbol of the same name.
    obtain ⟨i, hi⟩ := List.mem_iff_getElem?.1 hsymbol
    rw [symbols_define hid, List.getElem?_modify] at hi
    obtain ⟨old, hold, rfl⟩ := Option.map_eq_some_iff.1 hi
    have hname : registry.names[i]? = some old.name := by
      rw [names, List.getElem?_map, hold, Option.map_some]
    by_cases hsame : id = i
    · -- The symbol has just been written.
      subst hsame
      obtain rfl := Option.some.inj (hat.symm.trans hname)
      rw [if_pos rfl, Drafted, if_neg fun hboth => hboth.2 List.mem_cons_self, Table.resolve, hget]
    · -- The symbol has another number, so it has another name.
      have hne : old.name ≠ name := by
        rintro rfl
        exact hsame (Option.some.inj (hid.symm.trans ((h.indexed _ i).2 hname)))
      rw [if_neg hsame]
      simpa only [Drafted, List.mem_cons, hne, false_or] using
        h.drafted old (List.mem_of_getElem? hold)
  names_eq := by
    rw [names_define]
    exact h.names_eq

/-! ### What registering gives -/

variable {α β : Type} {mentioned : List String} {value : α}

/-- **What registering gives**, if it mentions some symbols: it fails with the first one that is
bad, or it has a value and records what is left to record. -/
inductive Gives (rules : Rules) (written ahead mentioned : List String) (value : α) :
    Except Error (α × Registry) → Prop where
  /-- Some symbol is neither a nonterminal nor a pattern. -/
  | fails {name : String} : mentioned.find? (Table.isBad rules) = some name →
    Gives rules written ahead mentioned value (.error (.invalidPattern name))
  /-- All symbols are registered. -/
  | records {registry : Registry} : mentioned.find? (Table.isBad rules) = none →
    Records rules written ahead registry →
    Gives rules written ahead mentioned value (.ok (value, registry))

/-- **One symbol is registered** with its number in the table. -/
theorem intern_gives (h : Records rules written (name :: ahead) registry) :
    Gives rules written ahead [name] ((Table.names rules).idxOf name) (intern name registry) := by
  rw [intern]
  split
  · -- The name has been mentioned before, or it is a nonterminal: nothing changes.
    next id hid =>
    have hmem := h.indexed.mem_names_of_lookup hid
    rw [h.lookup_eq hid]
    refine .records ?_ (h.again hmem)
    rw [List.find?_singleton, h.isBad_eq_false hmem]
    rfl
  · -- The name is new, so it is no nonterminal, and whether it is bad is up to its pattern.
    next hnone =>
    have hnew := h.indexed.not_mem_names_of_lookup hnone
    have hget : rules.get? name = none :=
      Option.not_isSome_iff_eq_none.1 (mt (h.declared name) hnew)
    split
    · next pattern hpattern =>
      rw [← h.idxOf_eq hnew]
      refine .records ?_ (h.add hnew hpattern)
      rw [List.find?_singleton, Table.isBad, hpattern, Option.isNone_some, Bool.and_false]
      rfl
    · next hpattern =>
      refine .fails ?_
      rw [List.find?_singleton, Table.isBad, hget, hpattern]
      rfl

/-- **Registering goes on** after it has registered some symbols. -/
theorem Gives.bind {x : Registering α} {g : α → Registering β} {written' ahead' after : List String}
    {result : β} (hx : Gives rules written ahead mentioned value (x registry))
    (hg : ∀ registry, Records rules written ahead registry →
      Gives rules written' ahead' after result (g value registry)) :
    Gives rules written' ahead' (mentioned ++ after) result ((x >>= g) registry) := by
  change Gives rules written' ahead' (mentioned ++ after) result
    (x registry >>= fun next => g next.1 next.2)
  -- All that counts of `x` is its outcome on this registry.
  generalize x registry = outcome at hx
  cases hx with
  | fails hbad =>
    refine .fails ?_
    rw [List.find?_append, hbad, Option.some_or]
  | records hnone hrecords =>
    have hfind : (mentioned ++ after).find? (Table.isBad rules) =
        after.find? (Table.isBad rules) := by
      rw [List.find?_append, hnone, Option.none_or]
    change Gives rules written' ahead' (mentioned ++ after) result (g value _)
    have hrest := hg _ hrecords
    generalize g value _ = outcome at hrest
    cases hrest with
    | fails hbad => exact .fails (hfind.trans hbad)
    | records hnone' hrecords' => exact .records (hfind.trans hnone') hrecords'

/-- Registering that mentions nothing and changes nothing. -/
theorem gives_pure (h : Records rules written ahead registry) (value : α) :
    Gives rules written ahead [] value ((pure value : Registering α) registry) :=
  .records rfl h

/-- **A list is registered** one element after the other. -/
theorem Gives.mapM {x : α → Registering β} {mentions : α → List String} {values : α → β}
    (hx : ∀ a ahead registry, Records rules written (mentions a ++ ahead) registry →
      Gives rules written ahead (mentions a) (values a) (x a registry))
    (list : List α) (h : Records rules written (list.flatMap mentions ++ ahead) registry) :
    Gives rules written ahead (list.flatMap mentions) (list.map values) (list.mapM x registry) := by
  -- While an element is registered, the symbols of those behind it are ahead.
  induction list generalizing registry with
  | nil =>
    rw [List.mapM_nil]
    exact gives_pure h []
  | cons a list ih =>
    rw [List.flatMap_cons, List.append_assoc] at h
    rw [List.mapM_cons, List.flatMap_cons, List.map_cons]
    refine (hx a _ registry h).bind fun registry h => ?_
    rw [← List.append_nil (list.flatMap mentions)]
    exact (ih h).bind fun registry h => gives_pure h _

/-- **Names are registered** with their numbers in the table. -/
theorem mapM_intern_gives {names : List String}
    (h : Records rules written (names ++ ahead) registry) :
    Gives rules written ahead names (names.map (Table.names rules).idxOf)
      (names.mapM intern registry) := by
  have hsingle : names.flatMap (fun name => [name]) = names := List.flatMap_singleton' names
  rw [← hsingle] at h
  have hgives := Gives.mapM (fun _ _ _ => intern_gives) names h
  rwa [hsingle] at hgives

/-- **An entry is registered**: its symbols have numbers, and its expansions are written. -/
theorem enter_gives {entry : RuleEntry} (hget : rules.get? entry.1 = some entry.2)
    (h : Records rules written (entry.2.flatMap (·.symbols) ++ ahead) registry) :
    Gives rules (entry.1 :: written) ahead (entry.2.flatMap (·.symbols)) ()
      (enter entry registry) := by
  have hexpansions :=
    Gives.mapM (fun expansion : Expansion => fun _ _ => mapM_intern_gives) entry.2 h
  rw [enter, ← List.append_nil (entry.2.flatMap _)]
  refine hexpansions.bind fun registry h => ?_
  -- What has come out are the expansions by number, and writing them mentions no symbol.
  exact .records rfl (h.define hget)

/-- **Entries are registered** one after the other. -/
theorem forM_enter_gives {entries : List RuleEntry}
    (hentries : ∀ entry ∈ entries, rules.get? entry.1 = some entry.2)
    (h : Records rules written (entries.flatMap fun entry => entry.2.flatMap (·.symbols))
      registry) :
    Gives rules ((entries.map (·.1)).reverse ++ written) []
      (entries.flatMap fun entry => entry.2.flatMap (·.symbols)) ()
      (entries.forM enter registry) := by
  -- Every entry adds its nonterminal to those that are written.
  induction entries generalizing written registry with
  | nil => exact gives_pure h ()
  | cons entry entries ih =>
    obtain ⟨hget, hentries⟩ := List.forall_mem_cons.1 hentries
    rw [List.flatMap_cons] at h
    rw [List.flatMap_cons, List.map_cons, List.reverse_cons, List.append_assoc,
      List.singleton_append]
    exact (enter_gives hget h).bind fun registry h => ih hentries h

/-- **The pass over the rules** fails with the first bad symbol of the rules, or all nonterminals
are written and nothing is ahead. -/
theorem ofRules_gives (rules : Rules) :
    Gives rules rules.nonterminals.reverse [] rules.occurrences ()
      (rules.entries.forM enter (declare rules.nonterminals)) := by
  have hentries : ∀ entry ∈ rules.entries, rules.get? entry.1 = some entry.2 :=
    fun entry hentry => Rules.get?_eq_some_iff.2 hentry
  have h := forM_enter_gives hentries (records_declare rules)
  rwa [List.append_nil] at h

/-- When everything is written and nothing is ahead, the symbols are those of the table. -/
theorem Records.ofRules_eq (h : Records rules rules.nonterminals.reverse [] registry) :
    Table.ofRules rules = .ok ⟨registry.symbols⟩ := by
  have hnames : Table.names rules = registry.symbols.toList.map (·.name) := by
    rw [h.names_eq, Table.distinct, List.append_nil, names]
  have hresolve : ∀ symbol ∈ registry.symbols.toList,
      Table.resolve rules (Table.names rules) symbol.name = .ok symbol := by
    intro symbol hsymbol
    have hdrafted := h.drafted symbol hsymbol
    rw [Drafted, if_neg] at hdrafted
    · exact hdrafted
    · rintro ⟨hcontains, hnot⟩
      exact hnot (List.mem_reverse.2 (Rules.contains_iff.1 hcontains))
  rw [Table.ofRules]
  nth_rewrite 2 [hnames]
  rw [Table.resolveAll_map_name hresolve]

/-- **The pass makes the table of the rules** and an index that is right, or it fails as making that
table does. -/
theorem ofRules_eq (rules : Rules) :
    (ofRules rules).map (fun registry => ⟨registry.symbols⟩) = Table.ofRules rules ∧
      ∀ registry, ofRules rules = .ok registry → registry.Indexed := by
  have hgives := ofRules_gives rules
  rw [ofRules, StateT.run]
  generalize rules.entries.forM enter (declare rules.nonterminals) = outcome at hgives
  cases hgives with
  | fails hbad => exact ⟨(Table.ofRules_eq_error_iff.2 ⟨_, hbad, rfl⟩).symm, nofun⟩
  | records _ h =>
    refine ⟨h.ofRules_eq.symm, fun other hother => ?_⟩
    exact Except.ok.inj hother ▸ h.indexed

end Registry

/-! ### Faithful tables -/

namespace Table

variable [PatternEngine]

/-- The name of a number. -/
def nameOf? (table : Table) (id : Nat) : Option String := (table.get? id).map (·.name)

/-- **A symbol table is faithful to rules**: names and numbers are inverse to each other, and every
symbol is what the rules say of its name. -/
structure Faithful (rules : Rules) (table : Table) : Prop where
  /-- A name has a number exactly if the number has that name. -/
  idOf?_iff : ∀ name id, table.idOf? name = some id ↔ table.nameOf? id = some name
  /-- The numbers are those below the size of the table. -/
  number_iff : ∀ id, (∃ name, table.nameOf? id = some name) ↔ id < table.size
  /-- The names are those of nonterminals and of symbols in their expansions. -/
  name_iff : ∀ name, (∃ id, table.idOf? name = some id) ↔
    rules.contains name = true ∨ ∃ nonterminal expansions expansion,
      rules.get? nonterminal = some expansions ∧ expansion ∈ expansions ∧ name ∈ expansion.symbols
  /-- The first numbers are those of the nonterminals, -/
  first : ∀ id < rules.size, table.nameOf? id = rules.nonterminals[id]?
  /-- which are in the order of their code points. -/
  ordered : rules.nonterminals.Pairwise (· < ·)
  /-- A nonterminal has its expansions, with every symbol by its number. -/
  nonterminal : ∀ name expansions, rules.get? name = some expansions →
    ∃ id numbered, table.get? id = some ⟨name, .nonterminal numbered⟩ ∧
      numbered.map (·.map table.nameOf?) = expansions.map (·.symbols.map some)
  /-- Every other symbol is a terminal, and its pattern is compiled from its name. -/
  terminal : ∀ id name, table.nameOf? id = some name → rules.contains name = false →
    ∃ pattern, Pattern.ofExpression? ("^(?:" ++ name ++ ")").toList = some pattern ∧
      table.get? id = some ⟨name, .terminal pattern⟩
  /-- The numbers in the expansions are numbers of symbols. -/
  closed : table.Closed

end Table

namespace Grammar

section

variable [PatternEngine] {rules : Rules} {start : Option String} {comments : List Comment}
  {grammar : Grammar}

theorem nameOf?_eq (grammar : Grammar) (id : Nat) :
    grammar.table.nameOf? id = (Table.names grammar.rules)[id]? := by
  rw [Table.nameOf?, Table.get?, ← Array.getElem?_toList, ← List.getElem?_map,
    grammar.table_symbols.1]

theorem idOf?_eq_some_iff_nameOf? {name : String} {id : Nat} :
    grammar.table.idOf? name = some id ↔ grammar.table.nameOf? id = some name := by
  rw [idOf?_eq_some_iff, nameOf?_eq]
  constructor
  · rintro ⟨hname, rfl⟩
    exact List.getElem?_idxOf hname
  · intro hat
    obtain ⟨hlt, rfl⟩ := List.getElem?_eq_some_iff.1 hat
    exact ⟨List.getElem_mem hlt, (Table.names_nodup grammar.rules).idxOf_getElem id hlt⟩

/-- The numbers of the symbols in an expansion lead back to them. -/
theorem map_nameOf?_idxOf {symbols : List String}
    (h : ∀ symbol ∈ symbols, symbol ∈ Table.names grammar.rules) :
    (symbols.map (Table.names grammar.rules).idxOf).map grammar.table.nameOf? =
      symbols.map some := by
  rw [List.map_map]
  refine List.map_congr_left fun symbol hsymbol => ?_
  rw [Function.comp_apply, nameOf?_eq]
  exact List.getElem?_idxOf (h symbol hsymbol)

theorem faithful (grammar : Grammar) : grammar.table.Faithful grammar.rules where
  idOf?_iff name id := idOf?_eq_some_iff_nameOf?
  number_iff id := by
    rw [Table.size, ← Option.isSome_iff_exists, Table.nameOf?, Option.isSome_map, Table.get?,
      isSome_getElem?]
  name_iff name := by
    rw [Rules.contains_iff, ← Rules.mem_occurrences, ← Table.mem_names]
    constructor
    · rintro ⟨id, hid⟩
      exact (idOf?_eq_some_iff.1 hid).1
    · intro hname
      exact ⟨_, idOf?_eq_some_iff.2 ⟨hname, rfl⟩⟩
  first id hid := by
    have hlt : id < grammar.rules.nonterminals.length := by
      rwa [Rules.nonterminals, List.length_map]
    rw [nameOf?_eq, Table.names_eq_append, List.getElem?_append_left hlt]
  ordered := List.pairwise_map.2 grammar.rules.ordered
  nonterminal name expansions hget := by
    have hcontains : grammar.rules.contains name = true := Rules.contains_of_get? hget
    obtain ⟨symbol, hsymbol, hresolve⟩ := get?_idxOf (Table.mem_names_of_contains hcontains)
    rw [Table.resolve, hget] at hresolve
    obtain rfl := Except.ok.inj hresolve
    refine ⟨_, _, hsymbol, ?_⟩
    rw [Table.number, List.map_map]
    refine List.map_congr_left fun expansion hexpansion => ?_
    exact map_nameOf?_idxOf fun symbol => Table.mem_names_of_mem_symbols hget hexpansion
  terminal id name hname hterminal := by
    obtain ⟨symbol, hsymbol, rfl⟩ := Option.map_eq_some_iff.1 hname
    obtain ⟨pattern, hpattern, hmeaning⟩ := grammar.ready.terminal id symbol hsymbol hterminal
    exact ⟨pattern, hpattern, hmeaning ▸ hsymbol⟩
  closed := grammar.table_closed

/-- **The symbol table of a grammar is faithful to its rules.** And the pass over the rules makes
this table, with an index that gives every name its number. -/
theorem table_is_faithful (h : build rules start comments = .ok grammar) :
    grammar.table.Faithful rules ∧
      ∃ registry, Registry.ofRules rules = .ok registry ∧
        registry.symbols = grammar.table.symbols ∧
        ∀ name, registry.index.lookup name = grammar.table.idOf? name := by
  obtain ⟨rfl, -, -⟩ := build_eq_ok_iff.1 h
  obtain ⟨hpass, hindexed⟩ := Registry.ofRules_eq grammar.rules
  rw [grammar.table_eq] at hpass
  cases hregistry : Registry.ofRules grammar.rules with
  | error e =>
    rw [hregistry] at hpass
    cases hpass
  | ok registry =>
    rw [hregistry] at hpass
    have hsymbols : registry.symbols = grammar.table.symbols :=
      congrArg Table.symbols (Except.ok.inj hpass)
    refine ⟨grammar.faithful, registry, rfl, hsymbols, fun name => Option.ext fun id => ?_⟩
    -- Both indices are inverse to the same list of names.
    rw [hindexed registry hregistry name id, idOf?_eq_some_iff_nameOf?, nameOf?_eq,
      Registry.names, hsymbols, grammar.table_symbols.1]

end

/-- The rows of words have their two nonterminals first and then two terminals, and the pass over
the rules finds them so. -/
theorem table_is_faithful_rows :
    rows.table.Faithful rowRules ∧
      [0, 1, 2, 3, 4].map rows.table.nameOf? = [some "Row", some "Word", some "a", some "b", none] ∧
      ∃ registry, Registry.ofRules rowRules = .ok registry ∧
        registry.index.lookup "b" = some 3 ∧ registry.index.lookup "z" = none := by
  obtain ⟨hfaithful, registry, hregistry, -, hindex⟩ :=
    table_is_faithful (build_eq_ok_iff.2 ⟨rfl, rfl, rfl⟩ :
      build rowRules rows.start rows.comments = .ok rows)
  refine ⟨hfaithful, by cbv, registry, hregistry, ?_, ?_⟩
  · rw [hindex]
    cbv
  · rw [hindex]
    cbv

end Grammar

end OrderedChoice
