import OrderedChoice.Proofs.Bound

/-!
# Maps between grammars

A map of symbol names from one grammar to another keeps the parses if it keeps the rules: the
expansions of the image of a nonterminal are those of the nonterminal, symbol by symbol and in the
same order, and terminals stay what they are. The map need not be given for all symbols, only for
those that come up, and different nonterminals may become one.

Nothing of the symbol tables has to agree. The two grammars number and order their symbols as they
like, and may have rules for other nonterminals.

* `Grammar.Homomorphism` states the conditions on such a map.
* `Grammar.Homomorphism.matchName_carry`: the map carries every run over, to every depth and from
  every place, also further on in a text.
* `Grammar.parse_commutes_with_homomorphism`: a parse of the image of a nonterminal gives the tree
  of the nonterminal with all symbols renamed.
-/

namespace OrderedChoice

/-- The expansion with its symbols renamed. -/
def Expansion.rename (r : String → String) (expansion : Expansion) : Expansion :=
  ⟨expansion.symbols.map r⟩

/-- **The tree with its symbols renamed**, in its nodes and in its faults. -/
def Tree.rename (r : String → String) (tree : Tree) : Tree := tree.carry r 0

/-- Nothing but names is changed, and text that is left over stays without one. -/
theorem Tree.rename_eq (r : String → String) (tree : Tree) :
    tree.rename r = ⟨relabel r tree.symbol, tree.start, tree.stop, tree.children.map (rename r),
      tree.fault.map (Fault.rename r)⟩ :=
  carry_eq r 0 tree

theorem Tree.rename_id (tree : Tree) : tree.rename id = tree := tree.carry_id

namespace Grammar

/-- A fault behind the root is carried over. -/
theorem leave_carry (r : String → String) (n : Nat) (root : Tree) (place : Place) (fault : Fault) :
    finish.leave (root.carry r n) (place.shift n) (fault.rename r) =
      (finish.leave root place fault).carry r n := by
  rw [finish.leave, finish.leave, Tree.carry_eq, Tree.carry_eq, List.map_append, List.map_singleton,
    Tree.failed, Tree.failed, Tree.carry_eq r n ⟨"", _, _, _, _⟩]
  rfl

section

variable [PatternEngine]

/-- **A homomorphism from a grammar to another one**, given on a set of symbol names. -/
structure Homomorphism (grammar image : Grammar) (names : Set String) (r : String → String) :
    Prop where
  /-- The comments are the same. -/
  comments_eq : image.comments = grammar.comments
  /-- With a nonterminal the set has the symbols of its expansions. -/
  closed : ∀ name ∈ names, ∀ expansions, grammar.rules.get? name = some expansions →
    ∀ expansion ∈ expansions, ∀ symbol ∈ expansion.symbols, symbol ∈ names
  /-- A nonterminal becomes one with the same expansions, renamed. -/
  nonterminal : ∀ name ∈ names, ∀ expansions, grammar.rules.get? name = some expansions →
    image.rules.get? (r name) = some (expansions.map (Expansion.rename r))
  /-- A terminal stays what it is. -/
  terminal : ∀ name ∈ names, grammar.rules.get? name = none →
    r name = name ∧ image.rules.get? name = none

variable {grammar image : Grammar} {names : Set String} {r : String → String}

namespace Homomorphism

/-- No nonterminal is without a name, so no name is lost. -/
theorem relabel_eq (h : Homomorphism grammar image names r) {name : String} (hname : name ∈ names) :
    relabel r name = r name := by
  rw [relabel]
  split
  · next hempty =>
    subst hempty
    cases hget : grammar.rules.get? "" with
    | none => exact (h.terminal "" hname hget).1.symm
    | some expansions => exact absurd rfl (grammar.rules.named _ (Rules.get?_eq_some_iff.1 hget))
  · rfl

/-- **A homomorphism carries every run over**, from every place to the one `n` bytes further on. -/
theorem matchName_carry (h : Homomorphism grammar image names r) {name : String}
    (hname : name ∈ names) (n bound : Nat) (p : Place) :
    image.matchName bound (r name) (p.shift n) =
      (grammar.matchName bound name p).map (carryResult r n) := by
  -- The induction is on the bound, for all names of the set: an expansion leads to others of them.
  induction bound generalizing name p with
  | zero => rfl
  | succ bound ih =>
    have hlabel := h.relabel_eq hname
    rw [matchName, matchName, h.comments_eq, skip_shift]
    cases skip grammar.comments p with
    | error opening =>
      simp only [shiftOutcome, Option.map_some, carryResult, Tree.failed, Tree.carry_eq, hlabel]
      rfl
    | ok q =>
      cases hget : grammar.rules.get? name with
      | none =>
        obtain ⟨hsame, himage⟩ := h.terminal name hname hget
        rw [hsame] at hlabel ⊢
        simp only [shiftOutcome, himage, Option.map_map]
        refine congrArg (fun f => Option.map f (Pattern.ofText? name.toList))
          (funext fun pattern => ?_)
        have hterminal := matchTerminal_carry (r := r) (n := n) name pattern q
        rwa [hlabel] at hterminal
      | some expansions =>
        have hsteps : ∀ symbols ∈ expansions.map (·.symbols), ∀ symbol ∈ symbols, ∀ p : Place,
            image.matchName bound (r symbol) (p.shift n) =
              (grammar.matchName bound symbol p).map (carryResult r n) := by
          intro symbols hsymbols symbol hsymbol p
          obtain ⟨expansion, hmem, rfl⟩ := List.mem_map.1 hsymbols
          exact ih (h.closed name hname expansions hget expansion hmem symbol hsymbol) p
        have hchoice := matchChoice_carry q none hsteps
        rw [List.map_map] at hchoice
        simp only [shiftOutcome, h.nonterminal name hname expansions hget, List.map_map,
          Option.map_map]
        refine (congrArg (Option.map (nodeOf (r name) (q.shift n))) hchoice).trans ?_
        rw [Option.map_map]
        refine congrArg (fun f => Option.map f _) (funext fun chosen => ?_)
        have hnode := nodeOf_carry (r := r) (n := n) name q chosen
        rwa [hlabel] at hnode

/-- What matches in the image is what matches in the grammar, carried over. -/
theorem matches_iff (h : Homomorphism grammar image names r) {name : String}
    (hname : name ∈ names) {n : Nat} {p next : Place} {tree : Tree} :
    image.Matches (r name) (p.shift n) tree next ↔
      ∃ root place, grammar.Matches name p root place ∧
        root.carry r n = tree ∧ place.shift n = next := by
  simp only [Matches, h.matchName_carry hname n, Option.map_eq_some_iff, Prod.exists, carryResult,
    Prod.mk.injEq]
  constructor
  · rintro ⟨bound, root, place, hmatch, hresult⟩
    exact ⟨root, place, ⟨bound, hmatch⟩, hresult⟩
  · rintro ⟨root, place, ⟨bound, hmatch⟩, hresult⟩
    exact ⟨bound, root, place, hmatch, hresult⟩

/-- The tree of a parse is carried over, from the node of its symbol. -/
theorem treeOf_carry (h : Homomorphism grammar image names r) (n : Nat) (symbol : String)
    (root : Tree) (place : Place) :
    image.treeOf (r symbol) (root.carry r n) (place.shift n) =
      (grammar.treeOf symbol root place).carry r n := by
  rw [treeOf, treeOf, Tree.carry_fault, Option.isSome_map]
  split
  · rfl
  · -- The root has matched, and what is behind it is skipped in both texts alike.
    rw [finish, finish, h.comments_eq, skip_shift]
    cases skip grammar.comments place with
    | error opening => exact leave_carry r n root opening .unterminatedComment
    | ok next =>
      simp only [shiftOutcome]
      by_cases hrest : next.rest.isEmpty = true
      · have hshift : (next.shift n).rest.isEmpty = true := hrest
        rw [if_pos hshift, if_pos hrest, Tree.carry_eq, Tree.carry_eq]
        rfl
      · have hshift : ¬ (next.shift n).rest.isEmpty = true := hrest
        rw [if_neg hshift, if_neg hrest]
        exact leave_carry r n root next (.unparsableAfter symbol)

/-- **A parse is carried over**, if it begins as the other one does `n` bytes further on. -/
theorem parse_eq (h : Homomorphism grammar image names r) {symbol : String}
    (hname : symbol ∈ names) (hsymbol : grammar.isNonterminal symbol = true)
    {source longer : String} {n : Nat}
    (hbegin : ∀ tree next, image.Matches (r symbol) (.begin longer.toList) tree next ↔
      image.Matches (r symbol) ((Place.begin source.toList).shift n) tree next) :
    image.parse longer (r symbol) = (grammar.parse source symbol).map (Tree.carry r n) := by
  have himage : image.isNonterminal (r symbol) = true := by
    obtain ⟨expansions, hget⟩ := Option.isSome_iff_exists.1 hsymbol
    exact isNonterminal_of_get? (h.nonterminal symbol hname expansions hget)
  have htree : ∀ tree, image.parse longer (r symbol) = .ok tree ↔
      ∃ whole, grammar.parse source symbol = .ok whole ∧ whole.carry r n = tree := by
    intro tree
    simp only [parse_eq_ok_iff, himage, hsymbol, true_and, hbegin, h.matches_iff hname]
    constructor
    · rintro ⟨_, _, ⟨root, place, hmatch, rfl, rfl⟩, rfl⟩
      exact ⟨_, ⟨root, place, hmatch, rfl⟩, (h.treeOf_carry n symbol root place).symm⟩
    · rintro ⟨_, ⟨root, place, hmatch, rfl⟩, rfl⟩
      exact ⟨_, _, ⟨root, place, hmatch, rfl, rfl⟩, h.treeOf_carry n symbol root place⟩
  cases hparse : grammar.parse source symbol with
  | ok whole => exact (htree _).2 ⟨whole, hparse, rfl⟩
  | error e =>
    -- Without a tree the one parse is endless, and so is the other.
    have hnone : ∀ whole, grammar.parse source symbol ≠ .ok whole := by
      intro whole hwhole
      rw [hparse] at hwhole
      cases hwhole
    have hendless := (parse_eq_endless_iff hsymbol).2 hnone
    rw [hparse] at hendless
    obtain rfl := Except.error.inj hendless
    refine (parse_eq_endless_iff himage).2 fun tree htree' => ?_
    obtain ⟨whole, hwhole, -⟩ := (htree tree).1 htree'
    exact hnone whole hwhole

/-- Names that are kept make a homomorphism of their own. -/
theorem identity (h : Homomorphism grammar image names r) (hr : ∀ name ∈ names, r name = name) :
    Homomorphism grammar image names id where
  comments_eq := h.comments_eq
  closed := h.closed
  nonterminal name hname expansions hget := by
    have himage := h.nonterminal name hname expansions hget
    rw [hr name hname] at himage
    rw [id_eq, himage]
    refine congrArg some (List.map_congr_left fun expansion hmem => ?_)
    refine congrArg Expansion.mk (List.map_congr_left fun symbol hsymbol => ?_)
    exact hr symbol (h.closed name hname expansions hget expansion hmem symbol hsymbol)
  terminal name hname hget := ⟨rfl, (h.terminal name hname hget).2⟩

end Homomorphism

/-- **Parsing commutes with homomorphisms.** The image of a nonterminal is parsed to the tree of the
nonterminal with all symbols renamed, and if one parse is endless, so is the other. Where the names
are kept, as when rules are added or deleted that do not come up, the parse stays the same. -/
theorem parse_commutes_with_homomorphism (h : Homomorphism grammar image names r) {symbol : String}
    (hname : symbol ∈ names) (hsymbol : grammar.isNonterminal symbol = true) (source : String) :
    image.parse source (r symbol) = (grammar.parse source symbol).map (Tree.rename r) ∧
      ((∀ name ∈ names, r name = name) →
        image.parse source symbol = grammar.parse source symbol) := by
  refine ⟨h.parse_eq hname hsymbol fun _ _ => Iff.rfl, fun hr => ?_⟩
  have hparse : image.parse source (id symbol) =
      (grammar.parse source symbol).map (Tree.rename id) :=
    (h.identity hr).parse_eq hname hsymbol fun _ _ => Iff.rfl
  rw [id_eq, funext Tree.rename_id] at hparse
  rw [hparse]
  cases grammar.parse source symbol <;> rfl

end

/-! ### Two nonterminals that become one -/

/-- The rules of a pair of letters, each with a nonterminal of its own. -/
def pairRules : Rules where
  entries := [("First", [⟨["a"]⟩]), ("Pair", [⟨["First", "Second"]⟩]), ("Second", [⟨["a"]⟩])]
  ordered := by decide
  named := by simp

/-- **A pair of letters**, without comments. -/
def pair : Grammar where
  rules := pairRules
  start := none
  comments := []
  table := (Table.ofRules pairRules).toOption.getD ⟨#[]⟩
  start_mem := nofun
  table_eq := by cbv

/-- The rules of a pair of letters with one nonterminal for both, and a rule that does not come
up. -/
def doubleRules : Rules where
  entries := [("Double", [⟨["Letter", "Letter"]⟩]), ("Letter", [⟨["a"]⟩]), ("Spare", [⟨["Spare"]⟩])]
  ordered := by decide
  named := by simp

/-- **A letter twice**, without comments. -/
def double : Grammar where
  rules := doubleRules
  start := none
  comments := []
  table := (Table.ofRules doubleRules).toOption.getD ⟨#[]⟩
  start_mem := nofun
  table_eq := by cbv

/-- The nonterminals of the two letters become one. -/
def merge (name : String) : String :=
  if name = "Pair" then "Double" else if name = "First" ∨ name = "Second" then "Letter" else name

theorem homomorphism_merge : Homomorphism pair double {"Pair", "First", "Second", "a"} merge := by
  have hclosed : ∀ entry ∈ pairRules.entries, ∀ expansion ∈ entry.2, ∀ symbol ∈ expansion.symbols,
      symbol ∈ ["Pair", "First", "Second", "a"] := by decide
  have hnonterminal : ∀ entry ∈ pairRules.entries,
      doubleRules.get? (merge entry.1) = some (entry.2.map (Expansion.rename merge)) := by decide
  refine ⟨rfl, ?_, ?_, ?_⟩
  · intro name _ expansions hget expansion hmem symbol hsymbol
    have hlisted := hclosed _ (Rules.get?_eq_some_iff.1 hget) expansion hmem symbol hsymbol
    simpa using hlisted
  · intro name _ expansions hget
    exact hnonterminal _ (Rules.get?_eq_some_iff.1 hget)
  · -- Of the four names only the letter has no rules.
    rintro name (rfl | rfl | rfl | rfl) hget
    · cases hget
    · cases hget
    · cases hget
    · exact ⟨rfl, rfl⟩

theorem parse_commutes_with_homomorphism_merge :
    Homomorphism pair double {"Pair", "First", "Second", "a"} merge ∧
      pair.isNonterminal "Pair" = true ∧
      pair.parse "a a b" "Pair" = .ok ⟨"Pair", 0, 4,
        [⟨"First", 0, 1, [⟨"a", 0, 1, [], none⟩], none⟩,
          ⟨"Second", 2, 3, [⟨"a", 2, 3, [], none⟩], none⟩,
          .failed "" 4 (.unparsableAfter "Pair")], none⟩ ∧
      double.parse "a a b" "Double" = .ok ⟨"Double", 0, 4,
        [⟨"Letter", 0, 1, [⟨"a", 0, 1, [], none⟩], none⟩,
          ⟨"Letter", 2, 3, [⟨"a", 2, 3, [], none⟩], none⟩,
          .failed "" 4 (.unparsableAfter "Double")], none⟩ := by
  have hnonterminal : pair.isNonterminal "Pair" = true := rfl
  have hpair : pair.parse "a a b" "Pair" = .ok ⟨"Pair", 0, 4,
      [⟨"First", 0, 1, [⟨"a", 0, 1, [], none⟩], none⟩,
        ⟨"Second", 2, 3, [⟨"a", 2, 3, [], none⟩], none⟩,
        .failed "" 4 (.unparsableAfter "Pair")], none⟩ := by cbv
  have hparse : double.parse "a a b" (merge "Pair") =
      (pair.parse "a a b" "Pair").map (Tree.rename merge) :=
    (parse_commutes_with_homomorphism homomorphism_merge (.inl rfl) hnonterminal "a a b").1
  rw [hpair] at hparse
  exact ⟨homomorphism_merge, hnonterminal, hpair, hparse⟩

end Grammar

end OrderedChoice
