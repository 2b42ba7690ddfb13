import OrderedChoice.Proofs.Bound

/-!
# Interpreting rules without a symbol table

A grammar is compiled when it is built: names become numbers, and terminals become patterns. The
direct way is to do nothing in advance. `Rules.interpret` has only the rules and the comments. It
keeps the names as they are, asks the rules at every step whether a name is a nonterminal, and
compiles every other name, inside a group at the start of the text, each time it is met.

* `Grammar.matchAt_eq_interpretSymbol`: matching a symbol of the table by its number is
  interpreting it by its name, to the same depth.
* `Grammar.table_does_not_show`: a parse gives a tree exactly if the interpreter does, and it is the
  same tree.
-/

namespace OrderedChoice

namespace Rules

variable [PatternEngine]

/-- **Interprets a symbol** at a place, with symbols nested to less than a bound. -/
def interpretSymbol (rules : Rules) (comments : List Comment) :
    Nat → String → Place → Option (Tree × Place)
  | 0, _, _ => none
  | bound + 1, name, place =>
    match skip comments place with
    | .error opening => some (.failed name opening.offset .unterminatedComment, opening)
    | .ok place =>
      match rules.get? name with
      | some expansions =>
        (matchChoice (rules.interpretSymbol comments bound) place none
          (expansions.map (·.symbols))).map (nodeOf name place)
      | none =>
        (Pattern.ofExpression? ("^(?:" ++ name ++ ")").toList).map fun pattern =>
          matchTerminal name pattern place

/-- What may stand behind the root: nothing, or a fault where the text cannot be read on. -/
def trailing (comments : List Comment) (symbol : String) (place : Place) : Place × List Tree :=
  match skip comments place with
  | .error opening => (opening, [.failed "" opening.offset .unterminatedComment])
  | .ok next =>
    (next, if next.rest = [] then [] else [.failed "" next.offset (.unparsableAfter symbol)])

/-- **Interprets a source text as a symbol**, with symbols nested to less than a bound. -/
def interpret (rules : Rules) (comments : List Comment) (bound : Nat) (source symbol : String) :
    Option Tree :=
  match rules.interpretSymbol comments bound symbol (.begin source.toList) with
  | none => none
  | some (root, place) =>
    match root.fault with
    | some _ => some root
    | none =>
      let (stop, rest) := trailing comments symbol place
      some { root with stop := stop.offset, children := root.children ++ rest }

end Rules

namespace Grammar

section

variable [PatternEngine] {grammar : Grammar}

/-- Matching by name needs nothing of a grammar but its rules and comments. -/
theorem matchName_eq_interpretSymbol (grammar : Grammar) (bound : Nat) :
    grammar.matchName bound = grammar.rules.interpretSymbol grammar.comments bound := by
  induction bound with
  | zero => rfl
  | succ bound ih =>
    funext name p
    cases hskip : skip grammar.comments p with
    | error opening => simp only [matchName, Rules.interpretSymbol, hskip]
    | ok q =>
      cases hget : grammar.rules.get? name with
      | none =>
        simp only [matchName, Rules.interpretSymbol, hskip, hget, Pattern.ofText?_eq_ofExpression?]
      | some expansions => simp only [matchName, Rules.interpretSymbol, hskip, hget, ih]

/-- **A number in the table and a name in the rules lead to the same node.** -/
theorem matchAt_eq_interpretSymbol {name : String} {id : Nat}
    (hid : grammar.table.idOf? name = some id) (bound : Nat) (p : Place) :
    grammar.matchAt bound id p = grammar.rules.interpretSymbol grammar.comments bound name p := by
  obtain ⟨hname, rfl⟩ := idOf?_eq_some_iff.1 hid
  rw [matchAt_eq_matchName grammar bound hname, matchName_eq_interpretSymbol]

/-- A root that has matched is finished alike. -/
theorem finish_eq_trailing (symbol : String) (root : Tree) (place : Place) :
    grammar.finish symbol root place =
      { root with
        stop := (Rules.trailing grammar.comments symbol place).1.offset
        children := root.children ++ (Rules.trailing grammar.comments symbol place).2 } := by
  rw [finish, Rules.trailing]
  cases skip grammar.comments place with
  | error opening => rfl
  | ok next =>
    cases hrest : next.rest with
    | nil => simp only [List.isEmpty_nil, if_true, List.append_nil, hrest]
    | cons c cs =>
      simp only [List.isEmpty_cons, Bool.false_eq_true, if_false, hrest, reduceCtorEq,
        finish.leave]

/-- **What the interpreter gives**, from the node of its symbol. -/
theorem interpret_eq_some_iff {bound : Nat} {source symbol : String} {tree : Tree} :
    grammar.rules.interpret grammar.comments bound source symbol = some tree ↔
      ∃ root place, grammar.matchName bound symbol (.begin source.toList) = some (root, place) ∧
        grammar.treeOf symbol root place = tree := by
  rw [Rules.interpret, ← matchName_eq_interpretSymbol]
  cases grammar.matchName bound symbol (.begin source.toList) with
  | none => simp only [reduceCtorEq, false_and, exists_false]
  | some result =>
    obtain ⟨root, place⟩ := result
    simp only [Option.some.injEq, Prod.mk.injEq, treeOf, finish_eq_trailing]
    cases hfault : root.fault <;> simp [hfault]

/-- **The symbol table does not show.** Every symbol of a grammar that has been built is matched as
the rules and comments it was built from are interpreted, to every depth. So a parse gives a tree
exactly if they are interpreted to that tree at some depth, and it is endless exactly if they are
at no depth. -/
theorem table_does_not_show {rules : Rules} {start : Option String} {comments : List Comment}
    (hbuild : build rules start comments = .ok grammar) {symbol : String}
    (hsymbol : rules.contains symbol = true) (source : String) :
    (∀ name id, grammar.table.idOf? name = some id → ∀ bound p,
      grammar.matchAt bound id p = rules.interpretSymbol comments bound name p) ∧
    (∀ tree, grammar.parse source symbol = .ok tree ↔
      ∃ bound, rules.interpret comments bound source symbol = some tree) ∧
    (grammar.parse source symbol = .error .endless ↔
      ∀ bound, rules.interpret comments bound source symbol = none) := by
  obtain ⟨rfl, -, rfl⟩ := build_eq_ok_iff.1 hbuild
  have htree : ∀ tree, grammar.parse source symbol = .ok tree ↔
      ∃ bound, grammar.rules.interpret grammar.comments bound source symbol = some tree := by
    intro tree
    rw [parse_eq_ok_iff]
    simp only [interpret_eq_some_iff, Matches]
    constructor
    · rintro ⟨-, root, place, ⟨bound, hbound⟩, htreeOf⟩
      exact ⟨bound, root, place, hbound, htreeOf⟩
    · rintro ⟨bound, root, place, hbound, htreeOf⟩
      exact ⟨hsymbol, root, place, ⟨bound, hbound⟩, htreeOf⟩
  refine ⟨fun name id hid => matchAt_eq_interpretSymbol hid, htree, ?_⟩
  rw [parse_eq_endless_iff hsymbol]
  simp only [ne_eq, htree, not_exists, Option.eq_none_iff_forall_ne_some]
  exact forall_comm

end

theorem table_does_not_show_rows :
    build rowRules (some "Row") rows.comments = .ok rows ∧ rowRules.contains "Row" = true ∧
      rows.parse "a /*é*/ b z" "Row" = .ok brokenRow ∧
      rowRules.interpret rows.comments 9 "a /*é*/ b z" "Row" = some brokenRow := by
  have hbuild : build rowRules (some "Row") rows.comments = .ok rows :=
    build_eq_ok_iff.2 ⟨rfl, rfl, rfl⟩
  have hsymbol : rowRules.contains "Row" = true := rfl
  have hinterpret : rowRules.interpret rows.comments 9 "a /*é*/ b z" "Row" = some brokenRow := by
    cbv
  obtain ⟨-, hparse, -⟩ := table_does_not_show hbuild hsymbol "a /*é*/ b z"
  exact ⟨hbuild, hsymbol, (hparse brokenRow).2 ⟨9, hinterpret⟩, hinterpret⟩

end Grammar

end OrderedChoice
