import Mathlib
import OrderedChoice.Pattern
import OrderedChoice.Proofs.Run

/-!
# The bound of a parse is large enough

A parse matches its symbol with the bound `Grammar.parseBound` and takes it for endless if that
bound does not do. This is right: a larger bound never gives more.

With the bound raised by one at a time, the pairs of a nonterminal and a place for which matching
ends become more and more. As soon as one step adds none, no later step does, because each step
depends on the one before only; and there are not more steps that add a pair than there are pairs.

* `Grammar.matchName_parseBound`: a symbol that matches at all does so within the bound.
* `Grammar.parse_eq_ok_iff`: a parse gives a tree exactly if its symbol matches, whatever the
  bound, at the beginning of the text.
* `Grammar.parse_eq_endless_iff`: a parse as a nonterminal that gives no tree is endless, and
  `Grammar.parse_eq_unknownSymbol_iff`: a parse as anything else is refused.
* `Grammar.exists_of_parse_eq_ok`: a parse that gives a tree has matched its symbol and has ended
  in one of four ways.
-/

namespace OrderedChoice.Grammar

section

variable [PatternEngine] {grammar : Grammar} {text : List Char} {bound : Nat}

/-! ### Pairs of a nonterminal and a place -/

/-- **Pairs of a nonterminal and a place** of the text, which is given by how many characters come
before it. -/
def pairs (grammar : Grammar) (text : List Char) : Finset (String × Nat) :=
  grammar.nonterminals.toFinset ×ˢ Finset.range (text.length + 1)

theorem card_pairs_le : (grammar.pairs text).card ≤ grammar.rules.size * (text.length + 1) := by
  rw [pairs, Finset.card_product, Finset.card_range]
  refine Nat.mul_le_mul_right _ ((List.toFinset_card_le _).trans ?_)
  rw [nonterminals, Rules.nonterminals, List.length_map, Rules.size]

/-- The pairs for which matching ends within a bound. -/
def ended (grammar : Grammar) (text : List Char) (bound : Nat) : Finset (String × Nat) :=
  (grammar.pairs text).filter fun pair =>
    (grammar.matchName bound pair.1 ((Place.begin text).advance pair.2)).isSome

theorem ended_mono {bound' : Nat} (hle : bound ≤ bound') :
    grammar.ended text bound ⊆ grammar.ended text bound' := by
  intro pair hpair
  rw [ended, Finset.mem_filter] at hpair ⊢
  obtain ⟨result, hresult⟩ := Option.isSome_iff_exists.1 hpair.2
  exact ⟨hpair.1, Option.isSome_iff_exists.2 ⟨result, matchName_mono hle hresult⟩⟩

/-- A nonterminal that matches at a place makes a pair. -/
theorem exists_mem_ended {name : String} {expansions : List Expansion} {p : Place}
    {result : Tree × Place} (hget : grammar.rules.get? name = some expansions) (hp : p.At text)
    (h : grammar.matchName bound name p = some result) :
    ∃ n, p = (Place.begin text).advance n ∧ (name, n) ∈ grammar.ended text bound := by
  -- A place of the text is so many characters behind its beginning.
  obtain ⟨n, hn, rfl⟩ := hp.exists_advance
  have hname : name ∈ grammar.nonterminals :=
    Rules.contains_iff.1 (Option.isSome_iff_exists.2 ⟨expansions, hget⟩)
  refine ⟨n, rfl, Finset.mem_filter.2 ⟨?_, ?_⟩⟩
  · refine Finset.mem_product.2 ⟨List.mem_toFinset.2 hname, Finset.mem_range.2 ?_⟩
    exact Nat.lt_succ_of_le hn
  · exact Option.isSome_iff_exists.2 ⟨result, h⟩

/-- If matching ends for the same pairs within two bounds, it gives the same within them. -/
theorem matchName_of_ended_subset {bound' : Nat} (hle : bound + 1 ≤ bound' + 1)
    (hsub : grammar.ended text (bound' + 1) ⊆ grammar.ended text (bound + 1)) {name : String}
    {p : Place} {result : Tree × Place} (hp : p.At text)
    (h : grammar.matchName (bound' + 1) name p = some result) :
    grammar.matchName (bound + 1) name p = some result := by
  cases hget : grammar.rules.get? name with
  | none =>
    -- Every bound but zero does for a symbol that is no nonterminal.
    rw [matchName_succ_of_get?_none hget] at h ⊢
    exact h
  | some expansions =>
    -- The pair has ended within the smaller bound too, and a larger bound keeps what it gave.
    obtain ⟨n, rfl, hmem⟩ := exists_mem_ended hget hp h
    have hended := (Finset.mem_filter.1 (hsub hmem)).2
    obtain ⟨result', hresult'⟩ := Option.isSome_iff_exists.1 hended
    have hsame := matchName_mono hle hresult'
    rw [h] at hsame
    rw [hresult', hsame]

/-! ### A step that adds nothing is the last one -/

/-- **The next bound adds nothing**: what ends within it ends within this one. -/
def Saturated (grammar : Grammar) (text : List Char) (bound : Nat) : Prop :=
  ∀ name p result, p.At text → grammar.matchName (bound + 1) name p = some result →
    grammar.matchName bound name p = some result

theorem Saturated.succ (h : grammar.Saturated text bound) : grammar.Saturated text (bound + 1) := by
  intro name p result hp hmatch
  cases hskip : skip grammar.comments p with
  | error opening =>
    rw [matchName, hskip] at hmatch ⊢
    exact hmatch
  | ok q =>
    cases hget : grammar.rules.get? name with
    | none =>
      rw [matchName_succ_of_get?_none hget] at hmatch ⊢
      exact hmatch
    | some expansions =>
      rw [matchName_succ_nonterminal hskip hget] at hmatch ⊢
      obtain ⟨chosen, hchooses, hnode⟩ := hmatch
      refine ⟨chosen, hchooses.imp (I := fun p => p.At text) ?_ (hp.of_le (le_of_skip_ok hskip)),
        hnode⟩
      -- The symbols of the expansions are matched within one bound less, at places of the text.
      intro name p tree q hp hstep
      exact ⟨h name p (tree, q) hp hstep, hp.of_le (Matches.le ⟨bound + 1, hstep⟩).1⟩

theorem saturated_of_card_eq
    (h : (grammar.ended text (bound + 1)).card = (grammar.ended text (bound + 2)).card) :
    grammar.Saturated text (bound + 1) := by
  -- A set in another one with as many members is that one.
  have heq := Finset.eq_of_subset_of_card_le (ended_mono (Nat.le_succ _)) (Nat.le_of_eq h.symm)
  intro name p result hp hmatch
  exact matchName_of_ended_subset (by omega) (Finset.subset_of_eq heq.symm) hp hmatch

theorem Saturated.card_eq (h : grammar.Saturated text bound) :
    (grammar.ended text bound).card = (grammar.ended text (bound + 1)).card := by
  refine congrArg Finset.card (Finset.Subset.antisymm (ended_mono (Nat.le_succ _)) ?_)
  intro pair hpair
  rw [ended, Finset.mem_filter] at hpair ⊢
  obtain ⟨result, hresult⟩ := Option.isSome_iff_exists.1 hpair.2
  refine ⟨hpair.1, Option.isSome_iff_exists.2 ⟨result, ?_⟩⟩
  exact h _ _ result ((Place.at_begin text).advance pair.2) hresult

/-- Beyond the bound of a parse there is nothing to add. -/
theorem card_ended_eq (hle : grammar.rules.size * (text.length + 1) ≤ bound) :
    (grammar.ended text (bound + 1)).card =
      (grammar.ended text (grammar.parseBound text)).card := by
  -- The number of pairs is monotone and bounded, and stays the same once it does not grow.
  refine Nat.stabilises_of_monotone (f := fun n => (grammar.ended text (n + 1)).card)
    (fun n m h => ?_) (fun n => ?_) (fun n h => ?_) hle
  · exact Finset.card_le_card (ended_mono (Nat.succ_le_succ h))
  · exact (Finset.card_le_card (Finset.filter_subset _ _)).trans card_pairs_le
  · exact (saturated_of_card_eq h).succ.card_eq

/-- **The bound of a parse is large enough**: a symbol that matches at a place of the text does so
within it. -/
theorem matchName_parseBound {name : String} {p next : Place} {tree : Tree} (hp : p.At text)
    (h : grammar.Matches name p tree next) :
    grammar.matchName (grammar.parseBound text) name p = some (tree, next) := by
  obtain ⟨bound, h⟩ := h
  -- The bound may be taken to be large.
  have hlarge := matchName_mono (Nat.le_add_right bound (grammar.parseBound text)) h
  have hbound : bound + grammar.parseBound text =
      (bound + grammar.rules.size * (text.length + 1)) + 1 := rfl
  rw [hbound] at hlarge
  have hle : grammar.rules.size * (text.length + 1) ≤
      bound + grammar.rules.size * (text.length + 1) := Nat.le_add_left _ _
  -- No pair is left that would end within it and does not end within the bound of a parse.
  have hsub : grammar.ended text (grammar.parseBound text) =
      grammar.ended text (bound + grammar.rules.size * (text.length + 1) + 1) :=
    Finset.eq_of_subset_of_card_le (ended_mono (Nat.succ_le_succ hle))
      (Nat.le_of_eq (card_ended_eq hle))
  exact matchName_of_ended_subset (Nat.succ_le_succ hle) (Finset.subset_of_eq hsub.symm) hp hlarge

/-! ### Parses -/

/-- The tree of a parse, from the node of its symbol and the place where that node ends. -/
def treeOf (grammar : Grammar) (symbol : String) (root : Tree) (place : Place) : Tree :=
  if root.fault.isSome then root else grammar.finish symbol root place

/-- **A parse gives a tree exactly if its symbol matches** at the beginning of the text. -/
theorem parse_eq_ok_iff {source symbol : String} {tree : Tree} :
    grammar.parse source symbol = .ok tree ↔
      grammar.isNonterminal symbol = true ∧ ∃ root place,
        grammar.Matches symbol (.begin source.toList) root place ∧
          grammar.treeOf symbol root place = tree := by
  constructor
  · intro h
    rw [parse] at h
    split at h
    · cases h
    · next id hid =>
      obtain ⟨hname, rfl⟩ := idOf?_eq_some_iff.1 hid
      split at h
      · next hnonterminal =>
        simp only [matchAt_eq_matchName grammar _ hname] at h
        split at h
        · cases h
        · next root place hmatch =>
          refine ⟨hnonterminal, root, place, ⟨_, hmatch⟩, ?_⟩
          rw [treeOf]
          split at h
          · next hfault => rw [if_pos hfault, Except.ok.inj h]
          · next hfault => rw [if_neg hfault, Except.ok.inj h]
      · cases h
  · rintro ⟨hnonterminal, root, place, hmatch, rfl⟩
    have hname := Table.mem_names_of_contains hnonterminal
    have hbound := matchName_parseBound (Place.at_begin source.toList) hmatch
    rw [parse, idOf?_eq_some_iff.2 ⟨hname, rfl⟩]
    simp only [hnonterminal, if_true, matchAt_eq_matchName grammar _ hname, hbound, treeOf]
    split <;> rfl

/-- **A parse as a nonterminal gives a tree or is endless.** -/
theorem parse_eq_endless_iff {source symbol : String}
    (hsymbol : grammar.isNonterminal symbol = true) :
    grammar.parse source symbol = .error .endless ↔
      ∀ tree, grammar.parse source symbol ≠ .ok tree := by
  have hid := idOf?_eq_some_iff.2 ⟨Table.mem_names_of_contains hsymbol, rfl⟩
  rw [parse, hid]
  simp only [hsymbol, if_true]
  -- With a number and rules for the symbol, only the bound can be lacking.
  split
  · refine ⟨fun _ tree h => ?_, fun _ => rfl⟩
    cases h
  · refine ⟨fun h => ?_, fun h => ?_⟩
    · split at h <;> cases h
    · split at h
      · exact absurd rfl (h _)
      · exact absurd rfl (h _)

/-- **A parse as a symbol is refused** exactly if the symbol is no nonterminal. -/
theorem parse_eq_unknownSymbol_iff {source symbol name : String} :
    grammar.parse source symbol = .error (.unknownSymbol name) ↔
      grammar.isNonterminal symbol = false ∧ name = symbol := by
  cases hsymbol : grammar.isNonterminal symbol with
  | false =>
    -- Whether the symbol has a number or not, the answer is the same.
    have hparse : grammar.parse source symbol = .error (.unknownSymbol symbol) := by
      rw [parse]
      split
      · rfl
      · rw [hsymbol]
        rfl
    rw [hparse, Except.error.injEq, ParseError.unknownSymbol.injEq]
    exact ⟨fun h => ⟨rfl, h.symm⟩, fun h => h.2.symm⟩
  | true =>
    refine ⟨fun h => ?_, fun h => nomatch h.1⟩
    have hendless := (parse_eq_endless_iff hsymbol).2 fun tree htree => by
      rw [h] at htree
      cases htree
    rw [h] at hendless
    cases hendless

/-- **The four ways in which a parse ends**, once its symbol has matched up to a place: with a
fault, at the end of the text, in front of more text, or at a comment that is not closed. -/
inductive Ends (grammar : Grammar) (symbol : String) (root : Tree) (place : Place) :
    Tree → Prop where
  | failed : root.fault ≠ none → Ends grammar symbol root place root
  | whole {next : Place} : root.fault = none → skip grammar.comments place = .ok next →
      next.rest = [] → Ends grammar symbol root place { root with stop := next.offset }
  | left {next : Place} : root.fault = none → skip grammar.comments place = .ok next →
      next.rest ≠ [] →
      Ends grammar symbol root place (finish.leave root next (.unparsableAfter symbol))
  | unclosed {opening : Place} : root.fault = none →
      skip grammar.comments place = .error opening →
      Ends grammar symbol root place (finish.leave root opening .unterminatedComment)

theorem ends_treeOf (symbol : String) (root : Tree) (place : Place) :
    Ends grammar symbol root place (grammar.treeOf symbol root place) := by
  rw [treeOf]
  split
  · next hfault => exact .failed (Option.isSome_iff_ne_none.1 hfault)
  · next hfault =>
    have hnone : root.fault = none := Option.not_isSome_iff_eq_none.1 hfault
    rw [finish]
    split
    · next next hskip =>
      split
      · next hrest => exact .whole hnone hskip (List.isEmpty_iff.1 hrest)
      · next hrest => exact .left hnone hskip fun hnil => hrest (List.isEmpty_iff.2 hnil)
    · next opening hskip => exact .unclosed hnone hskip

/-- **What a parse that gives a tree has done.** -/
theorem exists_of_parse_eq_ok {source symbol : String} {tree : Tree}
    (h : grammar.parse source symbol = .ok tree) :
    ∃ root place, grammar.Matches symbol (.begin source.toList) root place ∧
      Ends grammar symbol root place tree := by
  obtain ⟨-, root, place, hmatch, rfl⟩ := parse_eq_ok_iff.1 h
  exact ⟨root, place, hmatch, ends_treeOf symbol root place⟩

end

/-! ### A small grammar -/

/-- The rules of rows of words: a row is a word and a row, or nothing at all. -/
def rowRules : Rules where
  entries := [("Row", [⟨["Word", "Row"]⟩, ⟨[]⟩]), ("Word", [⟨["a"]⟩, ⟨["b"]⟩])]
  ordered := by decide
  named := by simp

/-- **Rows of words** with block comments between them, to see the statements at work. -/
def rows : Grammar where
  rules := rowRules
  start := some "Row"
  comments := [⟨"/*", some "*/", by decide, by decide⟩]
  table := (Table.ofRules rowRules).toOption.getD ⟨#[]⟩
  start_mem := by
    intro symbol h
    rw [← Option.some.inj h]
    rfl
  table_eq := by cbv

/-- The tree of a row with a word that there is not. -/
def brokenRow : Tree :=
  ⟨"Row", 0, 11, [⟨"Word", 0, 1, [⟨"a", 0, 1, [], none⟩], none⟩,
    ⟨"Row", 9, 11, [⟨"Word", 9, 10, [⟨"b", 9, 10, [], none⟩], none⟩, ⟨"Row", 11, 11, [], none⟩],
      none⟩,
    .failed "" 11 (.unparsableAfter "Row")], none⟩

end OrderedChoice.Grammar
