import OrderedChoice.Grammar.Analysis
import OrderedChoice.Proofs.Termination

/-!
# What the check of a grammar is worth

A grammar that passes the check has no expansion that begins with its own nonterminal. That does
not make every parse end: two nonterminals that begin with each other pass the check
(`Grammar.endless_despite_check`), and so does a nonterminal that stands behind nullable symbols in
its own expansion.

These are the only two ways, **indirect** and **hidden** left recursion:

* `Grammar.cycle_iff_hidden_or_indirect`: in a grammar that passes the check, the cycles of left
  calls are these two.
* `Grammar.checked_parse_ends_iff`: a parse with a grammar that passes the check ends exactly if no
  task of a nonterminal with hidden or indirect left recursion that it comes to comes back to
  itself. So it ends if there is no such nonterminal.
-/

namespace OrderedChoice

/-! ### What the check reports -/

/-- **What the check looks at** are the expansions of the nonterminals, by their places. -/
theorem Rules.mem_alternatives_iff {rules : Rules} {finding : Finding} :
    finding ∈ rules.alternatives ↔ ∃ expansions, rules.get? finding.nonterminal = some expansions ∧
      expansions[finding.index]? = some finding.expansion := by
  rw [alternatives, List.mem_flatMap]
  constructor
  · rintro ⟨⟨name, expansions⟩, hentry, hmem⟩
    obtain ⟨⟨expansion, index⟩, hindex, rfl⟩ := List.mem_map.1 hmem
    exact ⟨expansions, get?_eq_some_iff.2 hentry, List.mk_mem_zipIdx_iff_getElem?.1 hindex⟩
  · rintro ⟨expansions, hget, hindex⟩
    exact ⟨(finding.nonterminal, expansions), get?_eq_some_iff.1 hget,
      List.mem_map.2 ⟨(finding.expansion, finding.index),
        List.mk_mem_zipIdx_iff_getElem?.2 hindex, rfl⟩⟩

theorem Rules.exists_mem_alternatives {rules : Rules} {name : String} {expansions : List Expansion}
    {expansion : Expansion} (hget : rules.get? name = some expansions)
    (hmem : expansion ∈ expansions) : ∃ index, ⟨name, index, expansion⟩ ∈ rules.alternatives := by
  obtain ⟨index, hindex⟩ := List.mem_iff_getElem?.1 hmem
  exact ⟨index, mem_alternatives_iff.2 ⟨expansions, hget, hindex⟩⟩

/-- **One expansion is looked at before another one**: its nonterminal is less, or it is the same
one with a lesser place. -/
def Finding.Before (finding other : Finding) : Prop :=
  finding.nonterminal < other.nonterminal ∨
    finding.nonterminal = other.nonterminal ∧ finding.index < other.index

/-- **The expansions are looked at in order.** -/
theorem Rules.alternatives_pairwise (rules : Rules) :
    rules.alternatives.Pairwise Finding.Before := by
  rw [alternatives, List.pairwise_flatMap]
  constructor
  · rintro ⟨name, expansions⟩ -
    rw [List.pairwise_map]
    refine List.pairwise_iff_getElem.2 fun i j hi hj hlt => .inr ⟨rfl, ?_⟩
    simpa using hlt
  · refine rules.ordered.imp ?_
    rintro ⟨name, expansions⟩ ⟨other, expansions'⟩ hlt finding hfinding finding' hfinding'
    obtain ⟨_, -, rfl⟩ := List.mem_map.1 hfinding
    obtain ⟨_, -, rfl⟩ := List.mem_map.1 hfinding'
    exact .inl hlt

namespace Grammar

section

variable [PatternEngine] {grammar : Grammar}

/-- **In a grammar that passes the check no expansion begins with its own nonterminal.** -/
theorem first_ne_of_passesCheck (hcheck : grammar.passesCheck = true) {name callee : String}
    {expansions : List Expansion} {expansion : Expansion} {rest : List String}
    (hget : grammar.rules.get? name = some expansions) (hmem : expansion ∈ expansions)
    (hsymbols : expansion.symbols = callee :: rest) : callee ≠ name := by
  rintro rfl
  obtain ⟨index, hindex⟩ := Rules.exists_mem_alternatives hget hmem
  rw [passesCheck, Bool.and_eq_true, List.isEmpty_iff, List.isEmpty_iff] at hcheck
  -- The expansion would be reported.
  have hreported : ⟨callee, index, expansion⟩ ∈ grammar.leftRecursive := by
    refine List.mem_filter.2 ⟨hindex, ?_⟩
    simp only [Expansion.isLeftRecursive, Expansion.first?, hsymbols, List.head?_cons, decide_true]
  rw [hcheck.2] at hreported
  exact absurd hreported List.not_mem_nil

/-! ### What the check does not look for -/

/-- **Hidden left recursion**: a nonterminal stands in its own expansion behind nullable symbols. -/
def HiddenLeftCall (grammar : Grammar) (name : String) : Prop :=
  ∃ expansions expansion front rest, grammar.rules.get? name = some expansions ∧
    expansion ∈ expansions ∧ expansion.symbols = front ++ name :: rest ∧ front ≠ [] ∧
    ∀ symbol ∈ front, grammar.Nullable symbol

/-- **Indirect left recursion**: a nonterminal left-calls itself by way of another one. -/
def IndirectLeftCall (grammar : Grammar) (name : String) : Prop :=
  ∃ other, other ≠ name ∧ Relation.TransGen grammar.LeftCalls name other ∧
    Relation.TransGen grammar.LeftCalls other name

/-- A left call of a nonterminal to itself that is not reported is hidden. -/
theorem LeftCalls.hidden (hcheck : grammar.passesCheck = true) {name : String}
    (h : grammar.LeftCalls name name) : grammar.HiddenLeftCall name := by
  obtain ⟨expansions, expansion, front, rest, hget, hmem, hsymbols, hfront, -⟩ := h
  refine ⟨expansions, expansion, front, rest, hget, hmem, hsymbols, fun hnil => ?_, hfront⟩
  rw [hnil, List.nil_append] at hsymbols
  exact first_ne_of_passesCheck hcheck hget hmem hsymbols rfl

theorem HiddenLeftCall.leftCalls {name : String} (h : grammar.HiddenLeftCall name) :
    grammar.LeftCalls name name := by
  obtain ⟨expansions, expansion, front, rest, hget, hmem, hsymbols, -, hfront⟩ := h
  exact ⟨expansions, expansion, front, rest, hget, hmem, hsymbols, hfront,
    isNonterminal_of_get? hget⟩

/-- **What the check lets through**: a cycle of left calls is hidden, or goes through another
nonterminal. -/
theorem cycle_iff_hidden_or_indirect (hcheck : grammar.passesCheck = true) {name : String} :
    Relation.TransGen grammar.LeftCalls name name ↔
      grammar.HiddenLeftCall name ∨ grammar.IndirectLeftCall name := by
  constructor
  · intro hcycle
    -- The first call of the cycle goes to the nonterminal itself, or to another one.
    obtain ⟨other, hcall, hreturn⟩ := Relation.TransGen.head'_iff.1 hcycle
    by_cases hother : other = name
    · subst hother
      exact .inl (hcall.hidden hcheck)
    · rcases Relation.reflTransGen_iff_eq_or_transGen.1 hreturn with heq | hreturn
      · exact absurd heq.symm hother
      · exact .inr ⟨other, hother, .single hcall, hreturn⟩
  · rintro (hhidden | ⟨other, -, hthere, hback⟩)
    · exact .single hhidden.leftCalls
    · exact hthere.trans hback

theorem ComesBack.hidden_or_indirect (hcheck : grammar.passesCheck = true) {task : Task}
    (h : grammar.ComesBack task) :
    grammar.HiddenLeftCall task.1 ∨ grammar.IndirectLeftCall task.1 :=
  (cycle_iff_hidden_or_indirect hcheck).1 h.leftCalls

/-- **When a parse with a grammar that passes the check ends**: exactly if no task that it comes to
comes back to itself, and only tasks of nonterminals with hidden or indirect left recursion have to
be looked at. -/
theorem checked_parse_ends_iff (hcheck : grammar.passesCheck = true) {source symbol : String}
    (hsymbol : grammar.isNonterminal symbol = true) :
    (∃ tree, grammar.parse source symbol = .ok tree) ↔
      ∀ task, Relation.ReflTransGen grammar.Calls (symbol, .begin source.toList) task →
        grammar.HiddenLeftCall task.1 ∨ grammar.IndirectLeftCall task.1 →
        ¬ grammar.ComesBack task := by
  rw [exists_parse_iff hsymbol]
  constructor
  · exact fun hno task hreach _ => hno task hreach
  · -- A task without either kind of left recursion does not come back.
    exact fun hno task hreach hback => hno task hreach (hback.hidden_or_indirect hcheck) hback

end

theorem checked_parse_ends_iff_rows :
    rows.passesCheck = true ∧ rows.isNonterminal "Row" = true ∧
      (∀ name, ¬ rows.HiddenLeftCall name ∧ ¬ rows.IndirectLeftCall name) ∧
      ∃ tree, rows.parse "a /*é*/ b z" "Row" = .ok tree := by
  have hcheck : rows.passesCheck = true := by cbv
  have hnone : ∀ name, ¬ rows.HiddenLeftCall name ∧ ¬ rows.IndirectLeftCall name := by
    intro name
    rw [← not_or, ← cycle_iff_hidden_or_indirect hcheck]
    exact not_transGen_leftCalls_rows name
  refine ⟨hcheck, rfl, hnone, (checked_parse_ends_iff hcheck rfl).2 fun task _ hleft => ?_⟩
  exact absurd hleft (not_or.2 (hnone task.1))

/-! ### Two nonterminals that begin with each other -/

section

variable [PatternEngine] {grammar : Grammar}

/-- A nonterminal calls the first symbol of an expansion behind those that fail. -/
theorem calls_head {name callee : String} {p q : Place} {rest : List String}
    {before after : List Expansion} {expansion : Expansion}
    (hskip : skip grammar.comments p = .ok q)
    (hget : grammar.rules.get? name = some (before ++ expansion :: after))
    (hbefore : ∀ earlier ∈ before, Misses grammar.Matches q earlier)
    (hsymbols : expansion.symbols = callee :: rest) : grammar.Calls (name, p) (callee, q) :=
  .intro hskip hget hbefore hsymbols (.nil q) rfl

/-- A nonterminal calls the first symbol of its first expansion. -/
theorem calls_first {name callee : String} {p q : Place} {rest : List String}
    {after : List Expansion} (hskip : skip grammar.comments p = .ok q)
    (hget : grammar.rules.get? name = some (⟨callee :: rest⟩ :: after)) :
    grammar.Calls (name, p) (callee, q) :=
  calls_head hskip hget (fun _ hearlier => absurd hearlier List.not_mem_nil) rfl

end

/-- Without comments only blanks are skipped. -/
theorem skip_nil (p : Place) : skip [] p = .ok p.skipBlanks := by
  rw [skip_eq]
  rfl

/-- The rules of two nonterminals that begin with each other. -/
def mirrorRules : Rules where
  entries := [("Left", [⟨["Right", "a"]⟩]), ("Right", [⟨["Left", "b"]⟩])]
  ordered := by decide
  named := by simp

/-- **Two nonterminals that begin with each other**, without comments. -/
def mirror : Grammar where
  rules := mirrorRules
  start := none
  comments := []
  table := (Table.ofRules mirrorRules).toOption.getD ⟨#[]⟩
  start_mem := nofun
  table_eq := by cbv

/-- **A grammar passes the check, and no parse with it ends.** -/
theorem endless_despite_check :
    mirror.passesCheck = true ∧ mirror.isNonterminal "Left" = true ∧
      ∀ source tree, mirror.parse source "Left" ≠ .ok tree := by
  refine ⟨by cbv, rfl, fun source tree hparse => ?_⟩
  -- Behind the blanks at the beginning each of the two calls the other one where it stands.
  let q := (Place.begin source.toList).skipBlanks
  have hbegin : skip mirror.comments (.begin source.toList) = .ok q := skip_nil _
  have hstay : skip mirror.comments q = .ok q := skip_of_skip_ok hbegin
  have hright : mirror.Calls ("Left", .begin source.toList) ("Right", q) := calls_first hbegin rfl
  have hleft : mirror.Calls ("Right", q) ("Left", q) := calls_first hstay rfl
  have hagain : mirror.Calls ("Left", q) ("Right", q) := calls_first hstay rfl
  have hno := (exists_parse_iff rfl).1 ⟨tree, hparse⟩
  exact hno ("Right", q) (.single hright) (.tail (.single hleft) hagain)

end Grammar

end OrderedChoice
