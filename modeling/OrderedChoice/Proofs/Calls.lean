import Mathlib.Data.Finite.Prod
import Mathlib.Data.Nat.SuccPred
import Mathlib.Order.Preorder.Finite
import Mathlib.Order.SuccPred.Relation
import Mathlib.Order.WellFounded
import OrderedChoice.Proofs.Recognition

/-!
# When matching ends

To match a nonterminal at a place is a task, and it calls other tasks: the symbols of the
expansions that are tried, each at the place where the one in front of it has ended. Matching ends
exactly if these calls do.

A text has finitely many places and a grammar finitely many symbols, so calls that do not end come
to some task for the second time. This gives an exact criterion, which says nothing of a bound:

* `Grammar.exists_matches_iff_acc`: a symbol matches at a place exactly if there is no endless chain
  of calls from there.
* `Grammar.exists_parse_iff`: a parse gives a tree exactly if no task that it comes to comes back
  to itself.
-/

namespace OrderedChoice

/-! ### What is tried -/

/-- A way of matching that gives one result only. -/
def Functional (R : Reading) : Prop :=
  ∀ name p tree next tree' next', R name p tree next → R name p tree' next' →
    tree = tree' ∧ next = next'

variable {R S : Reading}

/-- Symbols one after another are matched in one way only. -/
theorem Spells.unique (hR : Functional R) {names : List String} {p : Place}
    {attempt attempt' : Attempt} (h : Spells R names p attempt) (h' : Spells R names p attempt') :
    attempt = attempt' := by
  induction h generalizing attempt' with
  | nil p =>
    cases h'
    rfl
  | fail names hread hfault =>
    cases h' with
    | fail _ hread' hfault' =>
      obtain ⟨rfl, rfl⟩ := hR _ _ _ _ _ _ hread hread'
      rw [Option.some.inj (hfault.symm.trans hfault')]
    | cons hread' hclean' _ =>
      obtain ⟨rfl, -⟩ := hR _ _ _ _ _ _ hread hread'
      rw [hfault] at hclean'
      cases hclean'
  | cons hread hclean _ ih =>
    cases h' with
    | fail _ hread' hfault' =>
      obtain ⟨rfl, -⟩ := hR _ _ _ _ _ _ hread hread'
      rw [hclean] at hfault'
      cases hfault'
    | cons hread' _ hrest' =>
      obtain ⟨rfl, rfl⟩ := hR _ _ _ _ _ _ hread hread'
      rw [ih hrest']

/-- One more symbol behind symbols that have matched. -/
theorem Spells.concat {names : List String} {name : String} {p next : Place} {attempt : Attempt}
    {child : Tree} (h : Spells R names p attempt) (hfault : attempt.fault = none)
    (hread : R name attempt.place child next) (hclean : child.fault = none) :
    Spells R (names ++ [name]) p ⟨attempt.children ++ [child], next, none⟩ := by
  induction h with
  | nil p => exact .cons hread hclean (.nil next)
  | fail names _ _ => cases hfault
  | cons hfirst hfirstClean _ ih => exact .cons hfirst hfirstClean (ih hfault hread)

/-- **A sequence tries the symbol behind those that match.** The readings of the sequence may carry
more than those of the symbols in front. -/
theorem Spells.exists_reading (hS : Functional S)
    (hRS : ∀ name p tree next, R name p tree next → S name p tree next) {front rest : List String}
    {name : String} {p : Place} {attempt attempt' : Attempt} (h : Spells S front p attempt)
    (hfault : attempt.fault = none) (h' : Spells R (front ++ name :: rest) p attempt') :
    ∃ tree next, R name attempt.place tree next := by
  induction h generalizing attempt' with
  | nil p =>
    cases h' with
    | fail _ hread _ => exact ⟨_, _, hread⟩
    | cons hread _ _ => exact ⟨_, _, hread⟩
  | fail names _ _ => cases hfault
  | cons hfirst hclean _ ih =>
    -- The first symbol matches, so the sequence goes on from where it has ended.
    cases h' with
    | fail _ hread hfail =>
      obtain ⟨rfl, -⟩ := hS _ _ _ _ _ _ hfirst (hRS _ _ _ _ hread)
      rw [hclean] at hfail
      cases hfail
    | cons hread _ hrest =>
      obtain ⟨-, rfl⟩ := hS _ _ _ _ _ _ hfirst (hRS _ _ _ _ hread)
      exact ih hfault hrest

/-- **A choice tries the expansion behind those that fail.** -/
theorem Chooses.exists_spells (hS : Functional S)
    (hRS : ∀ name p tree next, R name p tree next → S name p tree next) {p : Place}
    {before after : List Expansion} {expansion : Expansion} {best chosen : Option Attempt}
    (h : Chooses R p best (before ++ expansion :: after) chosen)
    (hbefore : ∀ earlier ∈ before, Misses S p earlier) :
    ∃ attempt, Spells R expansion.symbols p attempt := by
  induction before generalizing best with
  | nil =>
    cases h with
    | found _ _ hspells _ => exact ⟨_, hspells⟩
    | later hspells _ _ => exact ⟨_, hspells⟩
  | cons earlier before ih =>
    cases h with
    | found _ _ hspells hclean =>
      -- An expansion that fails is not the one that is found.
      obtain ⟨attempt, hattempt, hfault⟩ := hbefore earlier List.mem_cons_self
      rw [Spells.unique hS hattempt (hspells.mono hRS)] at hfault
      exact absurd hclean hfault
    | later _ _ hrest =>
      exact ih hrest fun other hother => hbefore other (List.mem_cons_of_mem earlier hother)

namespace Grammar

variable [PatternEngine]

/-! ### Calls -/

/-- **Task**: a symbol that is to be matched at a place. -/
abbrev Task := String × Place

/-- **One task calls another one**: all expansions in front of one have failed, and in that one all
symbols in front of the symbol that is called have matched. -/
inductive Calls (grammar : Grammar) : Task → Task → Prop where
  | intro {name callee : String} {p q : Place} {before after : List Expansion}
      {expansion : Expansion} {front rest : List String} {attempt : Attempt} :
    skip grammar.comments p = .ok q →
      grammar.rules.get? name = some (before ++ expansion :: after) →
      (∀ earlier ∈ before, Misses grammar.Matches q earlier) →
      expansion.symbols = front ++ callee :: rest →
      Spells grammar.Matches front q attempt → attempt.fault = none →
      Calls grammar (name, p) (callee, attempt.place)

variable {grammar : Grammar} {text : List Char}

theorem functional_matches (grammar : Grammar) : Functional grammar.Matches :=
  fun _ _ _ _ _ _ h h' => h.unique h'

/-- A call goes forward. -/
theorem Calls.le {task task' : Task} (h : grammar.Calls task task') : task.2 ≤ task'.2 := by
  cases h with
  | intro hskip _ _ _ hspells _ => exact (le_of_skip_ok hskip).trans (le_of_spells hspells)

/-- Only a nonterminal calls. -/
theorem Calls.isNonterminal {task task' : Task} (h : grammar.Calls task task') :
    grammar.isNonterminal task.1 = true := by
  cases h with
  | intro _ hget _ _ _ _ => exact isNonterminal_of_get? hget

/-- What is called is a symbol of the grammar. -/
theorem Calls.mem_names {task task' : Task} (h : grammar.Calls task task') :
    task'.1 ∈ Table.names grammar.rules := by
  cases h with
  | @intro name callee p q before after expansion front rest attempt _ hget _ hsymbols _ _ =>
    refine Table.mem_names_of_mem_symbols hget (List.mem_append_right _ List.mem_cons_self) ?_
    rw [hsymbols]
    exact List.mem_append_right _ List.mem_cons_self

/-! ### Matching ends if its calls do -/

section

variable {name : String} {p q : Place}
  (hskip : skip grammar.comments p = .ok q)
  (hcalls : ∀ task, grammar.Calls (name, p) task →
    ∃ tree next, grammar.Matches task.1 task.2 tree next)

include hskip hcalls

/-- An expansion behind those that fail is tried to its end. -/
theorem exists_spells_of_calls {before after : List Expansion} {expansion : Expansion}
    (hget : grammar.rules.get? name = some (before ++ expansion :: after))
    (hbefore : ∀ earlier ∈ before, Misses grammar.Matches q earlier) :
    ∃ attempt, Spells grammar.Matches expansion.symbols q attempt := by
  -- The induction is on the symbols that are left, with those in front of them matched.
  have hrest : ∀ rest front attempt, expansion.symbols = front ++ rest →
      Spells grammar.Matches front q attempt → attempt.fault = none →
      ∃ attempt', Spells grammar.Matches rest attempt.place attempt' := by
    intro rest
    induction rest with
    | nil => exact fun front attempt _ _ _ => ⟨_, .nil attempt.place⟩
    | cons callee rest ih =>
      intro front attempt hsymbols hspells hfault
      obtain ⟨tree, next, hmatch⟩ :=
        hcalls _ (.intro hskip hget hbefore hsymbols hspells hfault)
      cases hclean : tree.fault with
      | some fault => exact ⟨_, .fail rest hmatch hclean⟩
      | none =>
        have hsymbols' : expansion.symbols = (front ++ [callee]) ++ rest := by
          rw [hsymbols, List.append_assoc, List.singleton_append]
        obtain ⟨attempt', hspells'⟩ :=
          ih (front ++ [callee]) _ hsymbols' (hspells.concat hfault hmatch hclean) rfl
        exact ⟨_, .cons hmatch hclean hspells'⟩
  exact hrest expansion.symbols [] ⟨[], q, none⟩ rfl (.nil q) rfl

/-- The expansions of a nonterminal are tried to an end. -/
theorem exists_chooses_of_calls {expansions : List Expansion}
    (hget : grammar.rules.get? name = some expansions) :
    ∃ chosen, Chooses grammar.Matches q none expansions chosen := by
  -- The induction is on the expansions that are left, with those in front of them failed.
  have hafter : ∀ after before best, grammar.rules.get? name = some (before ++ after) →
      (∀ earlier ∈ before, Misses grammar.Matches q earlier) →
      ∃ chosen, Chooses grammar.Matches q best after chosen := by
    intro after
    induction after with
    | nil => exact fun before best _ _ => ⟨best, .done best⟩
    | cons expansion after ih =>
      intro before best hget hbefore
      obtain ⟨attempt, hspells⟩ := exists_spells_of_calls hskip hcalls hget hbefore
      by_cases hfault : attempt.fault = none
      · exact ⟨_, .found best after hspells hfault⟩
      · have hget' : grammar.rules.get? name = some ((before ++ [expansion]) ++ after) := by
          rw [hget, List.append_assoc, List.singleton_append]
        have hbefore' : ∀ earlier ∈ before ++ [expansion], Misses grammar.Matches q earlier := by
          intro earlier hearlier
          rcases List.mem_append.1 hearlier with hearlier | hearlier
          · exact hbefore earlier hearlier
          · rw [List.mem_singleton.1 hearlier]
            exact ⟨attempt, hspells, hfault⟩
        obtain ⟨chosen, hchooses⟩ := ih _ (some (attempt.further best)) hget' hbefore'
        exact ⟨chosen, .later hspells hfault hchooses⟩
  exact hafter expansions [] none hget fun _ hearlier => absurd hearlier List.not_mem_nil

end

/-- **A task is done if all that it calls are.** -/
theorem exists_matches_of_calls {name : String} {p : Place}
    (hname : name ∈ Table.names grammar.rules)
    (hcalls : ∀ task, grammar.Calls (name, p) task →
      ∃ tree next, grammar.Matches task.1 task.2 tree next) :
    ∃ tree next, grammar.Matches name p tree next := by
  -- Only a nonterminal behind comments that are closed has calls to wait for.
  cases hskip : skip grammar.comments p with
  | error opening => exact ⟨_, _, .unterminated name hskip⟩
  | ok q =>
    cases hget : grammar.rules.get? name with
    | none =>
      obtain ⟨pattern, hpattern⟩ := ofText?_of_mem_names hname hget
      exact ⟨_, _, .terminal hskip hget hpattern⟩
    | some expansions =>
      obtain ⟨chosen, hchooses⟩ := exists_chooses_of_calls hskip hcalls hget
      exact ⟨_, _, .nonterminal hskip hget hchooses⟩

/-- A task that is done calls only tasks that are. -/
theorem Matches.acc {name : String} {p next : Place} {tree : Tree}
    (h : grammar.Matches name p tree next) :
    Acc (fun task' task => grammar.Calls task task') (name, p) := by
  refine h.induction
    (motive := fun name p _ _ => Acc (fun task' task => grammar.Calls task task') (name, p))
    ?unterminated ?terminal ?nonterminal
  case unterminated =>
    -- Nothing is called behind a comment that is not closed, and nothing by a terminal.
    intro name p opening hskip
    refine .intro _ fun task hcall => ?_
    cases hcall with
    | intro hskip' _ _ _ _ _ =>
      rw [hskip] at hskip'
      cases hskip'
  case terminal =>
    intro name p q pattern _ hget _
    refine .intro _ fun task hcall => ?_
    cases hcall with
    | intro _ hget' _ _ _ _ =>
      rw [hget] at hget'
      cases hget'
  case nonterminal =>
    intro name p q expansions chosen hskip hget hchooses
    refine .intro _ fun task hcall => ?_
    cases hcall with
    | intro hskip' hget' hbefore hsymbols hspells hfault =>
      obtain rfl := Except.ok.inj (hskip.symm.trans hskip')
      obtain rfl := Option.some.inj (hget.symm.trans hget')
      -- What is called was tried, and the hypothesis is there for what was tried.
      obtain ⟨attempt, htried⟩ := hchooses.exists_spells (functional_matches grammar)
        (fun _ _ _ _ hread => hread.1) hbefore
      rw [hsymbols] at htried
      obtain ⟨tree, next, hread⟩ := hspells.exists_reading (functional_matches grammar)
        (fun _ _ _ _ hread => hread.1) hfault htried
      exact hread.2

/-- **Matching ends exactly if its calls do.** -/
theorem exists_matches_iff_acc {name : String} {p : Place}
    (hname : name ∈ Table.names grammar.rules) :
    (∃ tree next, grammar.Matches name p tree next) ↔
      Acc (fun task' task => grammar.Calls task task') (name, p) := by
  constructor
  · rintro ⟨tree, next, h⟩
    exact h.acc
  · intro h
    -- The induction is along the calls, which lead to symbols of the grammar only.
    have hdone : ∀ task, Acc (fun task' task => grammar.Calls task task') task →
        task.1 ∈ Table.names grammar.rules →
        ∃ tree next, grammar.Matches task.1 task.2 tree next := by
      intro task hacc
      induction hacc with
      | intro task _ ih =>
        intro htask
        exact exists_matches_of_calls htask fun task' hcall => ih task' hcall hcall.mem_names
    exact hdone (name, p) h hname

/-! ### Tasks that come back to themselves -/

/-- **A task comes back to itself** by way of calls. -/
def ComesBack (grammar : Grammar) (task : Task) : Prop :=
  Relation.TransGen grammar.Calls task task

/-- A task is one of the symbols and places of a text. -/
def IsTask (grammar : Grammar) (text : List Char) (task : Task) : Prop :=
  task.1 ∈ Table.names grammar.rules ∧ task.2.At text

/-- **A text has finitely many tasks.** -/
theorem finite_isTask (grammar : Grammar) (text : List Char) :
    {task | grammar.IsTask text task}.Finite := by
  have hnames : {name | name ∈ Table.names grammar.rules}.Finite :=
    (Table.names grammar.rules).finite_toSet
  have hplaces : {p : Place | p.At text}.Finite := by
    refine ((Set.finite_le_nat text.length).image (Place.begin text).advance).subset ?_
    intro p hp
    obtain ⟨n, hn, rfl⟩ := hp.exists_advance
    exact ⟨n, hn, rfl⟩
  exact hnames.prod hplaces

theorem IsTask.of_calls {task task' : Task} (h : grammar.IsTask text task)
    (hcall : grammar.Calls task task') : grammar.IsTask text task' :=
  ⟨hcall.mem_names, h.2.of_le hcall.le⟩

/-- **Calls do not end exactly if they come to a task that comes back to itself.** -/
theorem acc_iff_not_comesBack {task : Task} (htask : grammar.IsTask text task) :
    Acc (fun task' task => grammar.Calls task task') task ↔
      ∀ task', Relation.ReflTransGen grammar.Calls task task' → ¬ grammar.ComesBack task' := by
  constructor
  · intro hacc task' hreach
    have hacc' : Acc (fun task' task => grammar.Calls task task') task' := by
      induction hreach with
      | refl => exact hacc
      | tail _ hcall ih => exact ih.inv hcall
    -- If the task came back to itself, so would the task that it calls first.
    induction hacc' with
    | intro task' _ ih =>
      intro hback
      obtain ⟨called, hcall, hrest⟩ := Relation.TransGen.head'_iff.1 hback
      exact ih called hcall (hreach.tail hcall) (Relation.TransGen.tail' hrest hcall)
  · intro hno
    by_contra hacc
    obtain ⟨chain, hstart, hchain⟩ := not_acc_iff_exists_descending_chain.1 hacc
    have htasks : ∀ n, grammar.IsTask text (chain n) := by
      intro n
      induction n with
      | zero => exact hstart ▸ htask
      | succ n ih => exact ih.of_calls (hchain n)
    -- An endless chain of finitely many tasks has one of them twice.
    obtain ⟨m, n, hlt, heq⟩ :=
      Set.Finite.exists_lt_map_eq_of_forall_mem htasks (finite_isTask grammar text)
    have hreach : Relation.ReflTransGen grammar.Calls (chain 0) (chain m) :=
      (reflTransGen_of_succ_of_le (fun i j => grammar.Calls (chain i) (chain j))
        (fun i _ => hchain i) (Nat.zero_le m)).lift chain fun _ _ hcall => hcall
    have hback : Relation.TransGen grammar.Calls (chain m) (chain n) :=
      (transGen_of_succ_of_lt (fun i j => grammar.Calls (chain i) (chain j))
        (fun i _ => hchain i) hlt).lift chain fun _ _ hcall => hcall
    rw [hstart] at hreach
    rw [← heq] at hback
    exact hno (chain m) hreach hback

/-- **Matching ends exactly if it comes to no task that comes back to itself.** -/
theorem exists_matches_iff {name : String} {p : Place} (hname : name ∈ Table.names grammar.rules)
    (hp : p.At text) :
    (∃ tree next, grammar.Matches name p tree next) ↔
      ∀ task, Relation.ReflTransGen grammar.Calls (name, p) task → ¬ grammar.ComesBack task := by
  rw [exists_matches_iff_acc hname]
  exact acc_iff_not_comesBack ⟨hname, hp⟩

/-- **A parse gives a tree exactly if it comes to no task that comes back to itself.** -/
theorem exists_parse_iff {source symbol : String} (hsymbol : grammar.isNonterminal symbol = true) :
    (∃ tree, grammar.parse source symbol = .ok tree) ↔
      ∀ task, Relation.ReflTransGen grammar.Calls (symbol, .begin source.toList) task →
        ¬ grammar.ComesBack task := by
  rw [← exists_matches_iff (Table.mem_names_of_contains hsymbol) (Place.at_begin source.toList)]
  constructor
  · rintro ⟨tree, h⟩
    obtain ⟨-, root, place, hmatch, -⟩ := parse_eq_ok_iff.1 h
    exact ⟨root, place, hmatch⟩
  · rintro ⟨root, place, hmatch⟩
    exact ⟨_, parse_eq_ok_iff.2 ⟨hsymbol, root, place, hmatch, rfl⟩⟩

end Grammar

end OrderedChoice
