import Mathlib.Data.List.Sort
import OrderedChoice.Grammar.Document
import OrderedChoice.Proofs.SymbolTable

/-!
# Rules and the entries they come from

Rules are collected from a list of entries, into an order of their own and with the entries of one
name put together. All that counts in such a list is what each name gets from it, which
`Rules.expansionsOf` says without any order of names:

* `Rules.ofEntries_eq_ok_iff`: a list without an empty name has rules, and they give each name what
  the list gives it.
* `Rules.ofEntries_eq_error_iff`: the only failure is an empty name.
* `Rules.ofEntries_congr`: lists that give the same to every name have the same outcome.
* `Rules.expansionsOf_eq_some_iff`: in a list that has each name once, a name gets what its entry
  has.
* `Grammar.ofEntries_eq_ok_iff`: a grammar that is built from a list has its rules.
-/

namespace OrderedChoice

namespace Rules

variable {entries : List RuleEntry} {name other : String} {expansions : List Expansion}

/-- **Rules are told apart by what they give to names.** -/
theorem ext_get? {rules rules' : Rules} (h : ∀ name, rules.get? name = rules'.get? name) :
    rules = rules' := by
  have hmem : ∀ entry, entry ∈ rules.entries ↔ entry ∈ rules'.entries := by
    rintro ⟨name, expansions⟩
    rw [← get?_eq_some_iff, ← get?_eq_some_iff, h name]
  -- Both lists are in the order of their names, so what is in them decides.
  have : Std.Irrefl fun entry entry' : RuleEntry => entry.1 < entry'.1 :=
    ⟨fun entry => String.lt_irrefl entry.1⟩
  have : Std.Antisymm fun entry entry' : RuleEntry => entry.1 < entry'.1 :=
    ⟨fun _ _ hlt hgt => absurd hgt (String.lt_asymm hlt)⟩
  have hentries : rules.entries = rules'.entries :=
    rules.ordered.eq_of_mem_iff rules'.ordered hmem
  cases rules
  cases rules'
  cases hentries
  rfl

/-! ### Adding an entry -/

theorem lookup_entry_cons (entry : RuleEntry) (entries : List RuleEntry) (name : String) :
    (entry :: entries).lookup name =
      if name = entry.1 then some entry.2 else entries.lookup name := by
  by_cases heq : name = entry.1
  · rw [if_pos heq, heq, List.lookup_cons_self]
  · rw [if_neg heq, List.lookup_cons, beq_false_of_ne heq]

theorem lookup_addEntry (h : entries.Pairwise (·.1 < ·.1)) :
    (addEntry name expansions entries).lookup other =
      (entries.lookup other).merge (· ++ ·) (if other = name then some expansions else none) := by
  induction entries with
  | nil => rw [addEntry, lookup_entry_cons, List.lookup_nil, Option.merge_none_left]
  | cons first rest ih =>
    obtain ⟨hfirst, hrest⟩ := List.pairwise_cons.1 h
    rw [addEntry]
    split
    · next hname =>
      subst hname
      by_cases heq : other = first.1 <;> simp [lookup_entry_cons, heq]
    · next hne =>
      split
      · next hlt =>
        by_cases heq : other = name
        · -- The new name is less than all others, so it has no entry yet.
          have hnone : (first :: rest).lookup other = none := by
            refine List.lookup_eq_none_iff.2 fun entry hentry => ?_
            have hgt : other < entry.1 := by
              rcases List.mem_cons.1 hentry with rfl | hentry
              · exact heq ▸ hlt
              · exact heq ▸ String.lt_trans hlt (hfirst entry hentry)
            simpa using Std.ne_of_lt hgt
          rw [hnone, lookup_entry_cons, if_pos heq, if_pos heq, Option.merge_none_left]
        · rw [lookup_entry_cons, if_neg heq, if_neg heq, Option.merge_none_right]
      · rw [lookup_entry_cons, lookup_entry_cons]
        by_cases heq : other = first.1
        · have hother : other ≠ name := fun h => hne (h ▸ heq)
          rw [if_pos heq, if_pos heq, if_neg hother, Option.merge_none_right]
        · rw [if_neg heq, if_neg heq]
          exact ih hrest

/-- **An addition** goes behind what a name has, and changes nothing for other names. -/
theorem get?_add (rules : Rules) (h : name ≠ "") :
    (rules.add name expansions h).get? other =
      (rules.get? other).merge (· ++ ·) (if other = name then some expansions else none) :=
  lookup_addEntry rules.ordered

/-! ### What a list gives to a name -/

/-- **What a list of entries gives to a name**: the expansions of all its entries, in the order of
the list, if it has one. -/
def expansionsOf (entries : List RuleEntry) (name : String) : Option (List Expansion) :=
  if name ∈ entries.map (·.1) then some ((entries.filter (·.1 = name)).flatMap (·.2)) else none

theorem expansionsOf_eq_none_iff : expansionsOf entries name = none ↔ name ∉ entries.map (·.1) := by
  rw [expansionsOf, ite_eq_right_iff]
  exact ⟨fun h hmem => (nomatch h hmem), fun h hmem => absurd hmem h⟩

theorem expansionsOf_cons (entry : RuleEntry) (entries : List RuleEntry) (name : String) :
    expansionsOf (entry :: entries) name =
      (if name = entry.1 then some entry.2 else none).merge (· ++ ·)
        (expansionsOf entries name) := by
  by_cases heq : name = entry.1
  · by_cases hmem : name ∈ entries.map (·.1)
    · simp [expansionsOf, ← heq, hmem]
    · -- There is no other entry of that name.
      have hfilter : entries.filter (·.1 = name) = [] := by
        refine List.filter_eq_nil_iff.2 fun other hother hname => hmem ?_
        exact List.mem_map.2 ⟨other, hother, of_decide_eq_true hname⟩
      simp [expansionsOf, ← heq, hmem, hfilter]
  · have hmem : name ∈ (entry :: entries).map (·.1) ↔ name ∈ entries.map (·.1) := by
      simp [heq]
    have hfilter : (entry :: entries).filter (·.1 = name) = entries.filter (·.1 = name) :=
      List.filter_cons_of_neg (by simpa using Ne.symm heq)
    rw [if_neg heq, Option.merge_none_left, expansionsOf, expansionsOf, hfilter]
    simp only [hmem]

/-- **In a list that has each name once**, a name gets what its entry has. -/
theorem expansionsOf_eq_some_iff (h : (entries.map (·.1)).Nodup) :
    expansionsOf entries name = some expansions ↔ (name, expansions) ∈ entries := by
  induction entries with
  | nil => simp [expansionsOf]
  | cons entry rest ih =>
    obtain ⟨hnotin, hrest⟩ := List.nodup_cons.1 h
    rw [expansionsOf_cons]
    by_cases heq : name = entry.1
    · -- The rest does not have this name, so the entry decides alone.
      have hnone : expansionsOf rest name = none := expansionsOf_eq_none_iff.2 (heq ▸ hnotin)
      rw [hnone, Option.merge_none_right, if_pos heq, Option.some.injEq, List.mem_cons]
      constructor
      · rintro rfl
        exact .inl (Prod.ext heq rfl)
      · rintro (hentry | hmem)
        · rw [← hentry]
        · exact absurd (List.mem_map.2 ⟨_, hmem, heq⟩) hnotin
    · rw [if_neg heq, Option.merge_none_left, ih hrest, List.mem_cons]
      constructor
      · exact .inr
      · rintro (hentry | hmem)
        · exact absurd (congrArg Prod.fst hentry) heq
        · exact hmem

/-! ### Collecting rules -/

theorem get?_of_addAll {rules result : Rules} (h : rules.addAll entries = .ok result) :
    result.get? name = (rules.get? name).merge (· ++ ·) (expansionsOf entries name) := by
  induction entries generalizing rules with
  | nil =>
    rw [← Except.ok.inj h]
    simp [expansionsOf]
  | cons entry rest ih =>
    rw [addAll] at h
    split at h
    · cases h
    · have hassoc := Option.associative_merge (fun a b : List Expansion => a ++ b)
      rw [ih h, get?_add, expansionsOf_cons, hassoc.assoc]

theorem addAll_eq_error_iff {rules : Rules} {e : Error} :
    rules.addAll entries = .error e ↔ e = .emptyNonterminal ∧ "" ∈ entries.map (·.1) := by
  induction entries generalizing rules with
  | nil => simp [addAll]
  | cons entry rest ih =>
    rw [addAll, List.map_cons, List.mem_cons]
    split
    · next hempty =>
      rw [Except.error.injEq]
      exact ⟨fun h => ⟨h.symm, .inl hempty.symm⟩, fun h => h.1.symm⟩
    · next hne =>
      rw [ih]
      exact and_congr_right fun _ =>
        ⟨.inr, fun h => h.resolve_left fun hempty => hne hempty.symm⟩

/-- **The only failure is an empty name.** -/
theorem ofEntries_eq_error_iff {e : Error} :
    ofEntries entries = .error e ↔ e = .emptyNonterminal ∧ "" ∈ entries.map (·.1) :=
  addAll_eq_error_iff

/-- **The rules of a list without an empty name** are those that give every name what the list gives
it. -/
theorem ofEntries_eq_ok_iff {rules : Rules} :
    ofEntries entries = .ok rules ↔
      "" ∉ entries.map (·.1) ∧ ∀ name, rules.get? name = expansionsOf entries name := by
  have hget : ∀ result, ofEntries entries = .ok result →
      ∀ name, result.get? name = expansionsOf entries name := by
    intro result hresult name
    rw [get?_of_addAll hresult]
    exact Option.merge_none_left
  constructor
  · intro h
    refine ⟨fun hempty => ?_, hget rules h⟩
    rw [ofEntries_eq_error_iff.2 ⟨rfl, hempty⟩] at h
    cases h
  · rintro ⟨hnamed, hrules⟩
    cases hresult : ofEntries entries with
    | error e => exact absurd (ofEntries_eq_error_iff.1 hresult).2 hnamed
    | ok result => rw [ext_get? fun name => (hget result hresult name).trans (hrules name).symm]

/-- **Lists that give the same to every name** have the same outcome. -/
theorem ofEntries_congr {entries entries' : List RuleEntry}
    (h : ∀ name, expansionsOf entries name = expansionsOf entries' name) :
    ofEntries entries = ofEntries entries' := by
  have hempty : "" ∉ entries.map (·.1) ↔ "" ∉ entries'.map (·.1) := by
    rw [← expansionsOf_eq_none_iff, ← expansionsOf_eq_none_iff, h]
  cases hresult : ofEntries entries with
  | error e =>
    obtain ⟨he, hmem⟩ := ofEntries_eq_error_iff.1 hresult
    exact (ofEntries_eq_error_iff.2 ⟨he, not_not.1 fun hnot => hempty.2 hnot hmem⟩).symm
  | ok rules =>
    obtain ⟨hnamed, hget⟩ := ofEntries_eq_ok_iff.1 hresult
    exact (ofEntries_eq_ok_iff.2 ⟨hempty.1 hnamed, fun name => (hget name).trans (h name)⟩).symm

end Rules

/-- **A grammar that is built from a list** has the rules of the list. -/
theorem Grammar.ofEntries_eq_ok_iff [PatternEngine] {entries : List RuleEntry}
    {start : Option String} {comments : List Comment} {grammar : Grammar} :
    ofEntries entries start comments = .ok grammar ↔
      Rules.ofEntries entries = .ok grammar.rules ∧ grammar.start = start ∧
        grammar.comments = comments := by
  rw [ofEntries]
  cases hrules : Rules.ofEntries entries with
  | error e => exact ⟨nofun, fun h => nomatch h.1⟩
  | ok rules =>
    refine build_eq_ok_iff.trans (and_congr_left fun _ => ?_)
    rw [Except.ok.injEq, eq_comm]

end OrderedChoice
