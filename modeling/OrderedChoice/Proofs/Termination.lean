import OrderedChoice.Proofs.Calls

/-!
# Grammars without left recursion

Matching goes round in circles only if it comes back to a nonterminal without having taken up any
text. What lies in front of a symbol then has matched the empty text, so it is **nullable**, and
the nonterminal **left-calls** the symbol. Both notions are read off the rules and the patterns:

* `Grammar.Nullable` and `Grammar.LeftCalls` state them.
* `Grammar.Matches.nullable`: a symbol that matches without moving is nullable.
* `Grammar.ComesBack.leftCalls`: a task that comes back to itself shows a cycle of left calls.
* `Grammar.matching_ends_of_acyclic`: if there is no such cycle, matching always ends.
-/

namespace OrderedChoice

/-- **Symbols that match without moving** all match without moving. -/
theorem Spells.standing {R : Reading} (hR : ∀ name p tree q, R name p tree q → p ≤ q)
    {names : List String} {p : Place} {attempt : Attempt} (h : Spells R names p attempt)
    (hfault : attempt.fault = none) (hplace : attempt.place = p) :
    ∀ name ∈ names, ∃ tree, R name p tree p ∧ tree.fault = none := by
  induction h with
  | nil p => exact fun name hname => absurd hname List.not_mem_nil
  | fail names _ _ => cases hfault
  | @cons name names p next child attempt hread hclean hrest ih =>
    -- What comes behind the first symbol goes forward, too, and ends where it began.
    have hnext : next = p := by
      refine le_antisymm ?_ (hR _ _ _ _ hread)
      calc next ≤ attempt.place := hrest.le hR
        _ = p := hplace
    subst hnext
    intro other hother
    rcases List.mem_cons.1 hother with rfl | hother
    · exact ⟨child, hread, hclean⟩
    · exact ih hfault hplace other hother

namespace Grammar

variable [PatternEngine]

/-! ### Nullable symbols -/

/-- **A symbol is nullable** if it can match the empty text: a terminal if its pattern does so in
front of some text, and a nonterminal if all symbols of one of its expansions are nullable. -/
inductive Nullable (grammar : Grammar) : String → Prop where
  | terminal {name : String} {pattern : Pattern} {text : List Char} :
    grammar.Compiles name pattern → pattern.matchBytes? text = some 0 → Nullable grammar name
  | nonterminal {name : String} {expansions : List Expansion} {expansion : Expansion} :
    grammar.rules.get? name = some expansions → expansion ∈ expansions →
      (∀ symbol ∈ expansion.symbols, Nullable grammar symbol) → Nullable grammar name

variable {grammar : Grammar}

/-- **A symbol that matches without moving is nullable.** -/
theorem Matches.nullable {name : String} {p : Place} {tree : Tree}
    (h : grammar.Matches name p tree p) (hname : name ∈ Table.names grammar.rules)
    (hfault : tree.fault = none) : grammar.Nullable name := by
  refine h.node_induction (motive := fun name p tree next => name ∈ Table.names grammar.rules →
    tree.fault = none → next = p → grammar.Nullable name)
    ?unterminated ?matched ?unmatched ?barren ?spelled hname hfault rfl
  case unterminated =>
    intro name p opening _ _ hfault
    cases hfault
  case matched =>
    intro name p q pattern n hskip hget hpattern hlength hname _ hplace
    -- The pattern has taken up no bytes, since the places around it are the same.
    have hbytes : Text.byteLength (q.rest.take n) = 0 := by
      have hle := Place.offset_le (le_of_skip_ok hskip)
      have hoffset : q.offset + Text.byteLength (q.rest.take n) = p.offset :=
        congrArg Place.offset hplace
      omega
    have hempty : pattern.matchBytes? q.rest = some 0 := by
      rw [Pattern.matchBytes?, hlength, Option.map_some, hbytes]
    exact .terminal ((compiles_iff hname).2 ⟨hget, hpattern⟩) hempty
  case unmatched =>
    intro name p q pattern _ _ _ _ _ hfault
    cases hfault
  case barren =>
    intro name p q _ _ _ hfault
    cases hfault
  case spelled =>
    intro name p q expansions expansion attempt hskip hget hmem hspells _ hfault hplace
    have hle : q ≤ attempt.place := hspells.le fun _ _ _ _ hread => hread.1.le.1
    have hstay : attempt.place = q := le_antisymm (hplace ▸ le_of_skip_ok hskip) hle
    refine .nonterminal hget hmem fun symbol hsymbol => ?_
    obtain ⟨child, hread, hclean⟩ :=
      hspells.standing (fun _ _ _ _ hread => hread.1.le.1) hfault hstay symbol hsymbol
    exact hread.2 (Table.mem_names_of_mem_symbols hget hmem hsymbol) hclean rfl

/-! ### Left calls -/

/-- **A nonterminal left-calls another one** if it has an expansion in which that one stands behind
nullable symbols, or at the beginning. -/
def LeftCalls (grammar : Grammar) (name callee : String) : Prop :=
  ∃ expansions expansion front rest, grammar.rules.get? name = some expansions ∧
    expansion ∈ expansions ∧ expansion.symbols = front ++ callee :: rest ∧
    (∀ symbol ∈ front, grammar.Nullable symbol) ∧ grammar.isNonterminal callee = true

/-- A call of a nonterminal that does not move is a left call. -/
theorem Calls.leftCalls {task task' : Task} (h : grammar.Calls task task')
    (hplace : task'.2 = task.2) (hcallee : grammar.isNonterminal task'.1 = true) :
    grammar.LeftCalls task.1 task'.1 := by
  cases h with
  | @intro name callee p q before after expansion front rest attempt hskip hget _ hsymbols hspells
      hfault =>
    have hmem : expansion ∈ before ++ expansion :: after :=
      List.mem_append_right _ List.mem_cons_self
    have hback : attempt.place = p := hplace
    have hstay : attempt.place = q :=
      le_antisymm (hback ▸ le_of_skip_ok hskip) (le_of_spells hspells)
    refine ⟨_, expansion, front, rest, hget, hmem, hsymbols, fun symbol hsymbol => ?_, hcallee⟩
    -- Nothing has been taken up by the symbols in front.
    obtain ⟨tree, hmatch, hclean⟩ :=
      hspells.standing (fun _ _ _ _ hread => hread.le.1) hfault hstay symbol hsymbol
    refine hmatch.nullable (Table.mem_names_of_mem_symbols hget hmem ?_) hclean
    rw [hsymbols]
    exact List.mem_append_left _ hsymbol

/-- A chain of calls goes forward. -/
theorem le_of_transGen_calls {task task' : Task} (h : Relation.TransGen grammar.Calls task task') :
    task.2 ≤ task'.2 := by
  induction h with
  | single hcall => exact hcall.le
  | tail _ hcall ih => exact ih.trans hcall.le

/-- A chain of calls that does not move is a chain of left calls. -/
theorem leftCalls_of_transGen_calls {task task' : Task}
    (h : Relation.TransGen grammar.Calls task task') (hplace : task'.2 = task.2)
    (hcallee : grammar.isNonterminal task'.1 = true) :
    Relation.TransGen grammar.LeftCalls task.1 task'.1 := by
  induction h with
  | single hcall => exact .single (hcall.leftCalls hplace hcallee)
  | @tail between task' hchain hcall ih =>
    -- The task in between lies between two places that are the same.
    have hbetween : between.2 = task.2 :=
      le_antisymm (hplace ▸ hcall.le) (le_of_transGen_calls hchain)
    have hfirst := ih hbetween hcall.isNonterminal
    exact hfirst.tail (hcall.leftCalls (hplace.trans hbetween.symm) hcallee)

/-- **A task that comes back to itself shows a cycle of left calls.** -/
theorem ComesBack.leftCalls {task : Task} (h : grammar.ComesBack task) :
    Relation.TransGen grammar.LeftCalls task.1 task.1 := by
  obtain ⟨called, hcall, -⟩ := Relation.TransGen.head'_iff.1 h
  exact leftCalls_of_transGen_calls h rfl hcall.isNonterminal

/-- **Without a cycle of left calls matching always ends**: every symbol of the table returns a node
at every offset that cuts no character, and every parse gives a tree. -/
theorem matching_ends_of_acyclic
    (hacyclic : ∀ name, ¬ Relation.TransGen grammar.LeftCalls name name) (source : String) :
    (∀ name id offset, grammar.table.idOf? name = some id →
      Text.IsBoundary source.toList offset →
      ∃ tree, grammar.Returns source.toList id offset tree) ∧
    ∀ symbol, grammar.isNonterminal symbol = true →
      ∃ tree, grammar.parse source symbol = .ok tree := by
  have hno : ∀ task, ¬ grammar.ComesBack task := fun task hback => hacyclic _ hback.leftCalls
  refine ⟨fun name id offset hid hoffset => ?_, fun symbol hsymbol => ?_⟩
  · have hname := (idOf?_eq_some_iff.1 hid).1
    obtain ⟨tree, next, hmatch⟩ :=
      (exists_matches_iff hname (Place.at_ofOffset hoffset)).2 fun task _ => hno task
    exact ⟨tree, (returns_iff hid).2 ⟨next, hmatch⟩⟩
  · exact (exists_parse_iff hsymbol).2 fun task _ => hno task

end Grammar

/-! ### Programs that do not accept at once

With the engine of programs it can be read off a program that its pattern is not nullable. -/

/-- What a program has matched in the end is the match so far or lies further on. -/
theorem Pattern.Program.run_eq_some {code : Program} {before : Option Char} {entries : List Nat}
    {length n : Nat} {best : Option Nat} {text : List Char}
    (h : code.run before entries length best text = some n) : best = some n ∨ length ≤ n := by
  induction text generalizing before entries length best with
  | nil =>
    rw [run] at h
    split at h
    · exact .inr (Nat.le_of_eq (Option.some.inj h))
    · exact .inl h
  | cons c text ih =>
    -- The match so far is replaced by the place that has been reached, or kept.
    have hnew : ∀ m, (if (code.ways before (some c) entries).any code.accepts then some length
        else best) = some m → best = some m ∨ length ≤ m := by
      intro m hm
      split at hm
      · exact .inr (Nat.le_of_eq (Option.some.inj hm))
      · exact .inl hm
    rw [run] at h
    split at h
    · exact hnew n h
    · rcases ih h with hbest | hle
      · exact hnew n hbest
      · exact .inr (by omega)

/-- **A program that does not accept at once never matches the empty text**, whatever follows. -/
theorem Pattern.matchBytes?_ne_zero {code : Program}
    (h : ∀ after, (code.ways none after [0]).any code.accepts = false) (text : List Char) :
    matchBytes? ⟨code⟩ text ≠ some 0 := by
  intro hbytes
  obtain ⟨n, hlength, hn⟩ := Option.map_eq_some_iff.1 hbytes
  change code.matchLength? text = some n at hlength
  have htake : text.take n = [] := Text.byteLength_eq_zero hn
  have hle := code.matchLength?_le hlength
  obtain rfl : n = 0 := by
    have hzero := congrArg List.length htake
    rw [List.length_take, List.length_nil] at hzero
    omega
  rw [Program.matchLength?] at hlength
  cases text with
  | nil =>
    rw [Program.run, h none] at hlength
    cases hlength
  | cons c text =>
    -- Nothing is recorded here, and what is recorded later is longer.
    rw [Program.run] at hlength
    simp only [h (some c), Bool.false_eq_true, if_false] at hlength
    split at hlength
    · cases hlength
    · rcases Program.run_eq_some hlength with hnone | hle
      · cases hnone
      · omega

namespace Grammar

/-! ### Rows of words -/

/-- No letter of a row is nullable, for its pattern does not accept at once. -/
theorem not_nullable_letter {name : String} (hname : name = "a" ∨ name = "b") :
    ¬ rows.Nullable name := by
  have hget : rows.rules.get? name = none := by
    rcases hname with rfl | rfl <;> rfl
  have haccepts : ∀ after, (Pattern.ofText? name.toList).map (fun pattern =>
      (Pattern.Program.ways pattern.compiled none after [0]).any
        (Pattern.Program.accepts pattern.compiled)) = some false := by
    intro after
    rcases hname with rfl | rfl <;> cbv
  intro hnullable
  cases hnullable with
  | terminal hcompiles hempty =>
    obtain ⟨-, hpattern⟩ := (compiles_iff hcompiles.mem_names).1 hcompiles
    rw [hpattern] at haccepts
    exact Pattern.matchBytes?_ne_zero (fun after => Option.some.inj (haccepts after)) _ hempty
  | nonterminal hrules _ _ =>
    rw [hget] at hrules
    cases hrules

theorem not_nullable_word : ¬ rows.Nullable "Word" := by
  have hget : rows.rules.get? "Word" = some [⟨["a"]⟩, ⟨["b"]⟩] := rfl
  intro hnullable
  cases hnullable with
  | terminal hcompiles _ =>
    rw [hcompiles.get?_eq_none] at hget
    cases hget
  | nonterminal hrules hmem hsymbols =>
    -- Each of the two expansions is a letter.
    rw [hget] at hrules
    obtain rfl := Option.some.inj hrules
    rcases List.mem_pair.1 hmem with rfl | rfl
    · exact not_nullable_letter (.inl rfl) (hsymbols "a" List.mem_cons_self)
    · exact not_nullable_letter (.inr rfl) (hsymbols "b" List.mem_cons_self)

/-- The only left call is the one from a row to its first word: the row behind a word is not called
where the word begins. -/
theorem leftCalls_rows {name callee : String} (h : rows.LeftCalls name callee) :
    name = "Row" ∧ callee = "Word" := by
  obtain ⟨expansions, expansion, front, rest, hget, hmem, hsymbols, hfront, hcallee⟩ := h
  rcases List.mem_pair.1 (Rules.get?_eq_some_iff.1 hget) with hrow | hword
  · obtain ⟨rfl, rfl⟩ := Prod.mk.inj hrow
    rcases List.mem_pair.1 hmem with rfl | rfl
    · cases front with
      | nil => exact ⟨rfl, (List.cons.inj hsymbols).1.symm⟩
      | cons first front =>
        -- The row in the expansion stands behind a word, which is not nullable.
        rw [List.cons_append] at hsymbols
        obtain rfl := (List.cons.inj hsymbols).1
        exact absurd (hfront "Word" List.mem_cons_self) not_nullable_word
    · exact absurd hsymbols.symm (List.append_ne_nil_of_right_ne_nil _ (List.cons_ne_nil _ _))
  · -- A word consists of a letter, and a letter has no rules.
    obtain ⟨rfl, rfl⟩ := Prod.mk.inj hword
    have hletter : callee = "a" ∨ callee = "b" := by
      have hcalled : callee ∈ expansion.symbols := by
        rw [hsymbols]
        exact List.mem_append_right _ List.mem_cons_self
      rcases List.mem_pair.1 hmem with rfl | rfl
      · exact .inl (List.mem_singleton.1 hcalled)
      · exact .inr (List.mem_singleton.1 hcalled)
    rcases hletter with rfl | rfl <;> cases hcallee

theorem not_transGen_leftCalls_rows (name : String) :
    ¬ Relation.TransGen rows.LeftCalls name name := by
  intro hcycle
  -- A cycle would leave a row and come back to it, but left calls come to words only.
  obtain ⟨first, hfirst, -⟩ := Relation.TransGen.head'_iff.1 hcycle
  obtain ⟨last, -, hlast⟩ := Relation.TransGen.tail'_iff.1 hcycle
  have hrow := (leftCalls_rows hfirst).1
  rw [(leftCalls_rows hlast).2] at hrow
  exact absurd hrow (by decide)

theorem matching_ends_of_acyclic_rows :
    (∀ name, ¬ Relation.TransGen rows.LeftCalls name name) ∧
      ∀ source, ∃ tree, rows.parse source "Row" = .ok tree :=
  ⟨not_transGen_leftCalls_rows, fun source =>
    (matching_ends_of_acyclic not_transGen_leftCalls_rows source).2 "Row" rfl⟩

end Grammar

end OrderedChoice
