import OrderedChoice.Error
import OrderedChoice.Grammar.Expansion

/-!
# Rules

The rules of a grammar assign to every nonterminal its expansions, in the order in which they are
tried. Nonterminals are kept in the order of their code points, none of them twice, and no name is
empty; these conditions are part of the type.

* `Rules.ofEntries` collects rules from a list of entries. Entries of one name add up in the order
  of the list.
-/

namespace OrderedChoice

/-- An entry in a list of rules. -/
abbrev RuleEntry := String × List Expansion

/-- **Rules** in the order of their names. -/
structure Rules where
  /-- The nonterminals with their expansions. -/
  entries : List RuleEntry
  /-- The names increase. -/
  ordered : entries.Pairwise (·.1 < ·.1) := by simp
  /-- No name is empty. -/
  named : ∀ entry ∈ entries, entry.1 ≠ "" := by simp
  deriving DecidableEq

namespace Rules

/-- No rules. -/
def empty : Rules := { entries := [] }

/-! ### Adding an entry -/

/-- Adds expansions under a name, behind those that are there. -/
def addEntry (name : String) (expansions : List Expansion) : List RuleEntry → List RuleEntry
  | [] => [(name, expansions)]
  | entry :: rest =>
    if name = entry.1 then (name, entry.2 ++ expansions) :: rest
    else if name < entry.1 then (name, expansions) :: entry :: rest
    else entry :: addEntry name expansions rest

/-- The names after an addition are the old ones and the new one. -/
theorem mem_addEntry {name : String} {expansions : List Expansion} {entries : List RuleEntry}
    {entry : RuleEntry} (h : entry ∈ addEntry name expansions entries) :
    entry.1 = name ∨ ∃ old ∈ entries, old.1 = entry.1 := by
  induction entries with
  | nil =>
    simp only [addEntry, List.mem_singleton] at h
    exact .inl (by rw [h])
  | cons first rest ih =>
    rw [addEntry] at h
    split at h
    · rcases List.mem_cons.1 h with rfl | h
      · exact .inl rfl
      · exact .inr ⟨entry, List.mem_cons_of_mem _ h, rfl⟩
    · split at h
      · rcases List.mem_cons.1 h with rfl | h
        · exact .inl rfl
        · exact .inr ⟨entry, h, rfl⟩
      · rcases List.mem_cons.1 h with rfl | h
        · exact .inr ⟨entry, List.mem_cons_self, rfl⟩
        · rcases ih h with h | ⟨old, hold, h⟩
          · exact .inl h
          · exact .inr ⟨old, List.mem_cons_of_mem _ hold, h⟩

/-- Adding an entry keeps the order of the names. -/
theorem addEntry_pairwise {name : String} {expansions : List Expansion} {entries : List RuleEntry}
    (h : entries.Pairwise (·.1 < ·.1)) :
    (addEntry name expansions entries).Pairwise (·.1 < ·.1) := by
  induction entries with
  | nil => simp [addEntry]
  | cons first rest ih =>
    obtain ⟨hfirst, hrest⟩ := List.pairwise_cons.1 h
    rw [addEntry]
    split
    · next heq => exact List.pairwise_cons.2 ⟨fun e he => heq ▸ hfirst e he, hrest⟩
    · split
      · next hlt =>
        refine List.pairwise_cons.2 ⟨fun e he => ?_, h⟩
        rcases List.mem_cons.1 he with rfl | he
        · exact hlt
        · exact String.lt_trans hlt (hfirst e he)
      · next hne hnlt =>
        refine List.pairwise_cons.2 ⟨fun e he => ?_, ih hrest⟩
        rcases mem_addEntry he with h | ⟨old, hold, h⟩
        · -- Neither equal nor less, so the new name is greater.
          rw [h]
          exact Std.lt_of_le_of_ne (String.not_lt.1 hnlt) (Ne.symm hne)
        · exact h ▸ hfirst old hold

/-- The rules with expansions added under a name. -/
def add (rules : Rules) (name : String) (expansions : List Expansion) (h : name ≠ "") : Rules where
  entries := addEntry name expansions rules.entries
  ordered := addEntry_pairwise rules.ordered
  named entry hentry := by
    rcases mem_addEntry hentry with hname | ⟨old, hold, hname⟩
    · exact hname ▸ h
    · exact hname ▸ rules.named old hold

/-- The rules with the entries of a list added, from left to right. -/
def addAll (rules : Rules) : List RuleEntry → Except Error Rules
  | [] => .ok rules
  | (name, expansions) :: rest =>
    if h : name = "" then .error .emptyNonterminal
    else (rules.add name expansions h).addAll rest

/-- **Rules of a list of entries**, unless one of them has the empty name. -/
def ofEntries (entries : List RuleEntry) : Except Error Rules := empty.addAll entries

/-! ### Looking up -/

/-- **Expansions of a nonterminal**, if the name is one. -/
def get? (rules : Rules) (name : String) : Option (List Expansion) := rules.entries.lookup name

/-- Whether a name is a nonterminal. -/
def contains (rules : Rules) (name : String) : Bool := (rules.get? name).isSome

/-- The nonterminals in the order of their code points. -/
def nonterminals (rules : Rules) : List String := rules.entries.map (·.1)

/-- The number of nonterminals. -/
def size (rules : Rules) : Nat := rules.entries.length

/-- Whether there are no rules. -/
def isEmpty (rules : Rules) : Bool := rules.entries.isEmpty

/-- The symbols of all expansions, in the order of the rules. -/
def occurrences (rules : Rules) : List String :=
  rules.entries.flatMap fun entry => entry.2.flatMap (·.symbols)

end Rules

end OrderedChoice
