import OrderedChoice.Proofs.FailurePoint

/-!
# What a grammar recognises

The rules of a grammar can be read without any tree: from an offset of a text a symbol is accepted
up to another offset, or it is rejected, or neither, if the rules lead round in circles.
`Grammar.Verdict` states these rules. They know nothing of nodes, of faults, of which attempt came
furthest, or of a bound, and they speak of the names in the rules and not of a symbol table.

* `Grammar.Matches.verdict` and `Grammar.Verdict.reaches`: the engine gives a node for a symbol
  exactly if there is a verdict on it, and the node shows the verdict.
* `Grammar.matching_is_recognition`: so it is for the symbols of the table, and a parse succeeds
  exactly if its symbol is accepted and nothing but white space and comments follows.
-/

namespace OrderedChoice

/-! ### Choices without the best attempt -/

/-- An expansion of which some symbol does not match. -/
def Misses (R : Reading) (p : Place) (expansion : Expansion) : Prop :=
  ∃ attempt, Spells R expansion.symbols p attempt ∧ attempt.fault ≠ none

/-- What has been chosen, if anything has, did not match. -/
def Missed (chosen : Option Attempt) : Prop :=
  ∀ attempt, chosen = some attempt → attempt.fault ≠ none

theorem missed_none : Missed none := nofun

/-- Whichever of two attempts is the better one, it did not match if none of them did. -/
theorem Missed.further {best : Option Attempt} {attempt : Attempt} (hbest : Missed best)
    (hfault : attempt.fault ≠ none) : Missed (some (attempt.further best)) := by
  intro other hother
  rw [← Option.some.inj hother]
  rcases Attempt.further_eq_or best attempt with hnew | hold
  · rw [hnew]
    exact hfault
  · exact hbest _ hold

/-- **A choice finds the first expansion that does not fail**, or else all of them fail and so does
what is chosen, if anything is. -/
theorem Chooses.found_or_misses {R : Reading} {p : Place} {best chosen : Option Attempt}
    {expansions : List Expansion} (h : Chooses R p best expansions chosen) (hbest : Missed best) :
    (∃ before expansion after attempt, expansions = before ++ expansion :: after ∧
      (∀ earlier ∈ before, Misses R p earlier) ∧ Spells R expansion.symbols p attempt ∧
      attempt.fault = none ∧ chosen = some attempt) ∨
    ((∀ expansion ∈ expansions, Misses R p expansion) ∧ Missed chosen) := by
  induction h with
  | done best => exact .inr ⟨fun _ hmem => absurd hmem List.not_mem_nil, hbest⟩
  | found best expansions hspells hfault =>
    exact .inl ⟨[], _, expansions, _, rfl, fun _ hmem => absurd hmem List.not_mem_nil, hspells,
      hfault, rfl⟩
  | @later expansion expansions attempt best chosen hspells hfault _ ih =>
    -- This expansion fails, and the search goes on with a best attempt that has failed.
    have hmisses : Misses R p expansion := ⟨attempt, hspells, hfault⟩
    rcases ih (hbest.further hfault) with
      ⟨before, found, after, result, rfl, hbefore, hrest⟩ | ⟨hall, hchosen⟩
    · refine .inl ⟨expansion :: before, found, after, result, rfl, fun earlier hmem => ?_, hrest⟩
      rcases List.mem_cons.1 hmem with rfl | hmem
      · exact hmisses
      · exact hbefore earlier hmem
    · refine .inr ⟨fun other hmem => ?_, hchosen⟩
      rcases List.mem_cons.1 hmem with rfl | hmem
      · exact hmisses
      · exact hall other hmem

/-- An expansion that does not fail is chosen if all before it fail. -/
theorem Chooses.of_found {R : Reading} {p : Place} {before : List Expansion}
    {expansion : Expansion} {attempt : Attempt} (after : List Expansion)
    (hbefore : ∀ earlier ∈ before, Misses R p earlier)
    (hspells : Spells R expansion.symbols p attempt) (hfault : attempt.fault = none)
    (best : Option Attempt) : Chooses R p best (before ++ expansion :: after) (some attempt) := by
  induction before generalizing best with
  | nil => exact .found best after hspells hfault
  | cons earlier before ih =>
    obtain ⟨first, hfirst, hmiss⟩ := hbefore earlier List.mem_cons_self
    refine .later hfirst hmiss (ih (fun other hmem => ?_) _)
    exact hbefore other (List.mem_cons_of_mem earlier hmem)

/-- If all expansions fail, the choice ends all the same. -/
theorem Chooses.of_misses {R : Reading} {p : Place} {best : Option Attempt}
    {expansions : List Expansion} (h : ∀ expansion ∈ expansions, Misses R p expansion)
    (hbest : Missed best) : ∃ chosen, Chooses R p best expansions chosen ∧ Missed chosen := by
  induction expansions generalizing best with
  | nil => exact ⟨best, .done best, hbest⟩
  | cons expansion expansions ih =>
    obtain ⟨attempt, hspells, hfault⟩ := h expansion List.mem_cons_self
    obtain ⟨chosen, hchooses, hchosen⟩ :=
      ih (fun other hmem => h other (List.mem_cons_of_mem expansion hmem)) (hbest.further hfault)
    exact ⟨chosen, .later hspells hfault hchooses, hchosen⟩

/-! ### Ordered choice without trees -/

/-- **Length of the match at the front of a text**, in bytes. -/
def Pattern.matchBytes? [PatternEngine] (pattern : Pattern) (text : List Char) : Option Nat :=
  (pattern.matchLength? text).map fun n => Text.byteLength (text.take n)

/-- **What a verdict is about**: a symbol, or symbols one after another. -/
inductive Form where
  | symbol (name : String)
  | sequence (names : List String)

namespace Grammar

variable [PatternEngine]

/-- **Verdict on a form at an offset of a text**: it is accepted up to an offset (`some stop`) or
rejected (`none`). -/
inductive Verdict (grammar : Grammar) (text : List Char) : Form → Nat → Option Nat → Prop where
  /-- No symbol begins behind a comment that is not closed. -/
  | unterminated {name : String} {p opening : Nat} :
    skipFrom grammar.comments text p = .error opening → Verdict grammar text (.symbol name) p none
  /-- A terminal is accepted up to the end of what its pattern matches. -/
  | matched {name : String} {p q n : Nat} {pattern : Pattern} :
    skipFrom grammar.comments text p = .ok q → grammar.rules.get? name = none →
      Pattern.ofText? name.toList = some pattern →
      pattern.matchBytes? (Text.dropBytes q text) = some n →
      Verdict grammar text (.symbol name) p (some (q + n))
  | unmatched {name : String} {p q : Nat} {pattern : Pattern} :
    skipFrom grammar.comments text p = .ok q → grammar.rules.get? name = none →
      Pattern.ofText? name.toList = some pattern →
      pattern.matchBytes? (Text.dropBytes q text) = none →
      Verdict grammar text (.symbol name) p none
  /-- A nonterminal is accepted as its first expansion that is not rejected. -/
  | chosen {name : String} {p q stop : Nat} {before after : List Expansion}
      {expansion : Expansion} :
    skipFrom grammar.comments text p = .ok q →
      grammar.rules.get? name = some (before ++ expansion :: after) →
      (∀ earlier ∈ before, Verdict grammar text (.sequence earlier.symbols) q none) →
      Verdict grammar text (.sequence expansion.symbols) q (some stop) →
      Verdict grammar text (.symbol name) p (some stop)
  /-- A nonterminal is rejected if all its expansions are. -/
  | exhausted {name : String} {p q : Nat} {expansions : List Expansion} :
    skipFrom grammar.comments text p = .ok q → grammar.rules.get? name = some expansions →
      (∀ expansion ∈ expansions, Verdict grammar text (.sequence expansion.symbols) q none) →
      Verdict grammar text (.symbol name) p none
  /-- No symbols are accepted where they stand. -/
  | nil (p : Nat) : Verdict grammar text (.sequence []) p (some p)
  /-- What comes behind a symbol begins where that symbol was accepted up to. -/
  | next {name : String} {names : List String} {p q : Nat} {verdict : Option Nat} :
    Verdict grammar text (.symbol name) p (some q) →
      Verdict grammar text (.sequence names) q verdict →
      Verdict grammar text (.sequence (name :: names)) p verdict
  | stop {name : String} (names : List String) {p : Nat} :
    Verdict grammar text (.symbol name) p none →
      Verdict grammar text (.sequence (name :: names)) p none

/-- A symbol is accepted from one offset up to another. -/
def Accepts (grammar : Grammar) (text : List Char) (name : String) (p stop : Nat) : Prop :=
  grammar.Verdict text (.symbol name) p (some stop)

/-- A symbol is rejected at an offset. -/
def Rejects (grammar : Grammar) (text : List Char) (name : String) (p : Nat) : Prop :=
  grammar.Verdict text (.symbol name) p none

end Grammar

/-! ### The verdict that the engine shows -/

/-- The verdict of an offset that was reached and a fault. -/
def outcome (stop : Nat) : Option Fault → Option Nat
  | none => some stop
  | some _ => none

theorem outcome_eq_some_iff {reached stop : Nat} {fault : Option Fault} :
    outcome reached fault = some stop ↔ fault = none ∧ reached = stop := by
  cases fault <;> simp [outcome]

theorem outcome_eq_none_iff {reached : Nat} {fault : Option Fault} :
    outcome reached fault = none ↔ fault ≠ none := by
  cases fault <;> simp [outcome]

theorem outcome_nodeOf_of_missed {chosen : Option Attempt} (h : Missed chosen) {name : String}
    {p : Place} : outcome (nodeOf name p chosen).1.stop (nodeOf name p chosen).1.fault = none := by
  cases chosen with
  | none => rfl
  | some attempt => exact outcome_eq_none_iff.2 (h attempt rfl)

namespace Grammar

section

variable [PatternEngine] {grammar : Grammar} {text : List Char}

/-- A symbol has matched, and the node shows the verdict on it. -/
def Shows (grammar : Grammar) (text : List Char) : Reading := fun name p tree next =>
  grammar.Matches name p tree next ∧
    (p.At text → grammar.Verdict text (.symbol name) p.offset (outcome tree.stop tree.fault))

theorem verdict_of_spells {names : List String} {p : Place} {attempt : Attempt}
    (h : Spells (grammar.Shows text) names p attempt) (hp : p.At text) :
    grammar.Verdict text (.sequence names) p.offset
      (outcome attempt.place.offset attempt.fault) := by
  induction h with
  | nil p => exact .nil p.offset
  | fail names hchild hfault =>
    have hverdict := hchild.2 hp
    rw [hfault] at hverdict
    exact .stop names hverdict
  | cons hchild hfault _ ih =>
    obtain ⟨hle, hstop⟩ := hchild.1.le
    have hverdict := hchild.2 hp
    rw [hfault, hstop] at hverdict
    exact .next hverdict (ih (hp.of_le hle))

/-- An expansion that fails is rejected. -/
theorem verdict_of_misses {p : Place} {expansion : Expansion}
    (h : Misses (grammar.Shows text) p expansion) (hp : p.At text) :
    grammar.Verdict text (.sequence expansion.symbols) p.offset none := by
  obtain ⟨attempt, hspells, hfault⟩ := h
  have hverdict := verdict_of_spells hspells hp
  rwa [outcome_eq_none_iff.2 hfault] at hverdict

/-- **A node shows the verdict on its symbol.** -/
theorem Matches.verdict {name : String} {p next : Place} {tree : Tree}
    (h : grammar.Matches name p tree next) (hp : p.At text) :
    grammar.Verdict text (.symbol name) p.offset (outcome tree.stop tree.fault) := by
  refine h.induction (motive := fun name p tree _ => p.At text →
    grammar.Verdict text (.symbol name) p.offset (outcome tree.stop tree.fault))
    ?unterminated ?terminal ?nonterminal hp
  case unterminated =>
    intro name p opening hskip hp
    exact .unterminated (skipFrom_of_skip_error hp hskip)
  case terminal =>
    intro name p q pattern hskip hget hpattern hp
    have hq : Text.dropBytes q.offset text = q.rest := (hp.of_le (le_of_skip_ok hskip)).dropBytes
    have hfrom := skipFrom_of_skip_ok hp hskip
    rw [matchTerminal]
    split
    · next n hlength =>
      refine .matched hfrom hget hpattern ?_
      rw [hq, Pattern.matchBytes?, hlength, Option.map_some]
    · next hlength =>
      refine .unmatched hfrom hget hpattern ?_
      rw [hq, Pattern.matchBytes?, hlength, Option.map_none]
  case nonterminal =>
    intro name p q expansions chosen hskip hget hchooses hp
    have hq : q.At text := hp.of_le (le_of_skip_ok hskip)
    have hfrom := skipFrom_of_skip_ok hp hskip
    -- Each symbol that was tried shows the verdict on it.
    have hchooses : Chooses (grammar.Shows text) q none expansions chosen := hchooses
    rcases hchooses.found_or_misses missed_none with
      ⟨before, expansion, after, attempt, rfl, hbefore, hspells, hfault, rfl⟩ | ⟨hall, hchosen⟩
    · have hverdict := verdict_of_spells hspells hq
      rw [hfault] at hverdict
      have haccepted := Verdict.chosen hfrom hget
        (fun earlier hmem => verdict_of_misses (hbefore earlier hmem) hq) hverdict
      rwa [nodeOf, hfault]
    · -- Which attempt is reported does not matter: it has a fault, if there is one.
      have hnone := Verdict.exhausted hfrom hget
        fun expansion hmem => verdict_of_misses (hall expansion hmem) hq
      rwa [outcome_nodeOf_of_missed hchosen]

/-! ### The engine gives a node for every verdict -/

/-- The engine comes to a verdict on a form. -/
def Reaches (grammar : Grammar) (text : List Char) (p : Nat) (verdict : Option Nat) : Form → Prop
  | .symbol name => ∃ tree next, grammar.Matches name (.ofOffset text p) tree next ∧
      outcome tree.stop tree.fault = verdict
  | .sequence names => ∃ attempt, Spells grammar.Matches names (.ofOffset text p) attempt ∧
      outcome attempt.place.offset attempt.fault = verdict

/-- A symbol that is accepted is matched up to a place of the text. -/
theorem Reaches.exists_ofOffset {name : String} {p stop : Nat} (hp : Text.IsBoundary text p)
    (h : grammar.Reaches text p (some stop) (.symbol name)) :
    Text.IsBoundary text stop ∧ ∃ tree,
      grammar.Matches name (.ofOffset text p) tree (.ofOffset text stop) ∧ tree.fault = none := by
  obtain ⟨tree, next, hmatch, houtcome⟩ := h
  obtain ⟨hfault, hreached⟩ := outcome_eq_some_iff.1 houtcome
  -- The run ends at a place of the text, and that place is known by its offset.
  obtain ⟨hle, hstop⟩ := hmatch.le
  have hnext : next.At text := (Place.at_ofOffset hp).of_le hle
  have hoffset : next.offset = stop := hstop.symm.trans hreached
  rw [← hoffset]
  exact ⟨hnext.isBoundary, tree, hnext.eq_ofOffset ▸ hmatch, hfault⟩

theorem Reaches.misses {p : Nat} {expansion : Expansion}
    (h : grammar.Reaches text p none (.sequence expansion.symbols)) :
    Misses grammar.Matches (.ofOffset text p) expansion := by
  obtain ⟨attempt, hspells, houtcome⟩ := h
  exact ⟨attempt, hspells, outcome_eq_none_iff.1 houtcome⟩

/-- **The engine comes to every verdict.** -/
theorem Verdict.reaches {form : Form} {p : Nat} {verdict : Option Nat}
    (h : grammar.Verdict text form p verdict) (hp : Text.IsBoundary text p) :
    grammar.Reaches text p verdict form := by
  induction h with
  | unterminated hfrom =>
    obtain ⟨opening, hskip⟩ := skip_of_skipFrom_error hfrom
    exact ⟨_, _, .unterminated _ hskip, rfl⟩
  | matched hfrom hget hpattern hbytes =>
    obtain ⟨hskip, hq⟩ := skip_of_skipFrom_ok hp hfrom
    obtain ⟨n, hlength, rfl⟩ := Option.map_eq_some_iff.1 hbytes
    refine ⟨_, _, .terminal hskip hget hpattern, ?_⟩
    rw [matchTerminal]
    simp only [Place.ofOffset, hlength]
    rfl
  | unmatched hfrom hget hpattern hbytes =>
    obtain ⟨hskip, hq⟩ := skip_of_skipFrom_ok hp hfrom
    have hlength := Option.map_eq_none_iff.1 hbytes
    refine ⟨_, _, .terminal hskip hget hpattern, ?_⟩
    rw [matchTerminal]
    simp only [Place.ofOffset, hlength]
    rfl
  | @chosen name p q stop before after expansion hfrom hget _ _ ihbefore ih =>
    obtain ⟨hskip, hq⟩ := skip_of_skipFrom_ok hp hfrom
    -- The expansions before this one are rejected, so the search comes to it.
    obtain ⟨attempt, hspells, houtcome⟩ := ih hq
    have hfault := (outcome_eq_some_iff.1 houtcome).1
    have hchooses := Chooses.of_found after
      (fun earlier hmem => (ihbefore earlier hmem hq).misses) hspells hfault none
    exact ⟨_, _, .nonterminal hskip hget hchooses, houtcome⟩
  | exhausted hfrom hget _ ih =>
    obtain ⟨hskip, hq⟩ := skip_of_skipFrom_ok hp hfrom
    obtain ⟨chosen, hchooses, hchosen⟩ :=
      Chooses.of_misses (fun expansion hmem => (ih expansion hmem hq).misses) missed_none
    exact ⟨_, _, .nonterminal hskip hget hchooses, outcome_nodeOf_of_missed hchosen⟩
  | nil p => exact ⟨_, .nil _, rfl⟩
  | next _ _ ihfirst ihrest =>
    -- The rest is read from the boundary where the first symbol ends.
    obtain ⟨hq, tree, hmatch, hfault⟩ := (ihfirst hp).exists_ofOffset hp
    obtain ⟨attempt, hspells, houtcome⟩ := ihrest hq
    exact ⟨_, .cons hmatch hfault hspells, houtcome⟩
  | stop names _ ih =>
    obtain ⟨tree, next, hmatch, houtcome⟩ := ih hp
    obtain ⟨fault, hfault⟩ := Option.ne_none_iff_exists'.1 (outcome_eq_none_iff.1 houtcome)
    exact ⟨_, .fail names hmatch hfault, rfl⟩

/-! ### Matching is recognition -/

/-- **Matching a symbol of the table returns a node**, if it may nest symbols as deeply as it
likes. -/
def Returns (grammar : Grammar) (text : List Char) (id offset : Nat) (tree : Tree) : Prop :=
  ∃ bound next, grammar.matchAt bound id (.ofOffset text offset) = some (tree, next)

theorem returns_iff {name : String} {id offset : Nat} {tree : Tree}
    (hid : grammar.table.idOf? name = some id) :
    grammar.Returns text id offset tree ↔
      ∃ next, grammar.Matches name (.ofOffset text offset) tree next := by
  obtain ⟨hname, rfl⟩ := idOf?_eq_some_iff.1 hid
  simp only [Returns, Matches, matchAt_eq_matchName grammar _ hname]
  exact exists_comm

/-- **The verdicts are those that the nodes show.** -/
theorem verdict_iff_returns {name : String} {id offset : Nat} {verdict : Option Nat}
    (hid : grammar.table.idOf? name = some id) (hoffset : Text.IsBoundary text offset) :
    grammar.Verdict text (.symbol name) offset verdict ↔
      ∃ tree, grammar.Returns text id offset tree ∧ outcome tree.stop tree.fault = verdict := by
  constructor
  · intro h
    obtain ⟨tree, next, hmatch, houtcome⟩ := h.reaches hoffset
    exact ⟨tree, (returns_iff hid).2 ⟨next, hmatch⟩, houtcome⟩
  · rintro ⟨tree, hreturns, rfl⟩
    obtain ⟨next, hmatch⟩ := (returns_iff hid).1 hreturns
    exact hmatch.verdict (Place.at_ofOffset hoffset)

/-! ### Parses -/

/-- The node of a symbol settles the verdict on it. -/
theorem Matches.verdict_iff {name : String} {p next : Place} {tree : Tree} {verdict : Option Nat}
    (h : grammar.Matches name p tree next) (hp : p.At text) :
    grammar.Verdict text (.symbol name) p.offset verdict ↔
      outcome tree.stop tree.fault = verdict := by
  constructor
  · intro hverdict
    -- The engine comes to the verdict with a node of its own, and there is only one node.
    obtain ⟨tree', next', hmatch, houtcome⟩ := hverdict.reaches hp.isBoundary
    rw [← hp.eq_ofOffset] at hmatch
    obtain ⟨rfl, rfl⟩ := h.unique hmatch
    exact houtcome
  · rintro rfl
    exact h.verdict hp

variable {symbol : String} {root tree : Tree} {place : Place}

/-- However a parse ends, its root keeps the fault that it has. -/
theorem Ends.fault_eq (h : Ends grammar symbol root place tree) : tree.fault = root.fault := by
  cases h <;> rfl

/-- **A parse is without a fault** exactly if its symbol has matched up to what may be skipped at
the end of the text. -/
theorem Ends.hasFault_eq_false_iff (h : Ends grammar symbol root place tree)
    (hroot : root.fault = none → root.hasFault = false) (hplace : place.At text) :
    tree.hasFault = false ↔ root.fault = none ∧
      skipFrom grammar.comments text place.offset = .ok (Text.byteLength text) := by
  cases h with
  | failed hfault =>
    refine ⟨fun h => absurd (Tree.hasFault_eq_false.1 h).1 hfault, fun h => absurd h.1 hfault⟩
  | @whole next hfault hskip hrest =>
    have hnext : next.At text := hplace.of_le (le_of_skip_ok hskip)
    rw [Tree.hasFault_withStop, skipFrom_of_skip_ok hplace hskip, hnext.offset_of_rest_nil hrest]
    exact ⟨fun _ => ⟨hfault, rfl⟩, fun _ => hroot hfault⟩
  | @left next hfault hskip hrest =>
    have hnext : next.At text := hplace.of_le (le_of_skip_ok hskip)
    rw [hasFault_leave, skipFrom_of_skip_ok hplace hskip]
    -- Skipping has ended in front of more text, so it has not come to the end.
    refine ⟨nofun, fun h => absurd (hnext.rest_nil_of_offset ?_) hrest⟩
    exact Except.ok.inj h.2
  | @unclosed opening hfault hskip =>
    rw [hasFault_leave, skipFrom_of_skip_error hplace hskip]
    exact ⟨nofun, nofun⟩

/-- **What the verdicts on a symbol at the beginning of a text say about a parse.** -/
structure ParseShowsVerdict (grammar : Grammar) (source symbol : String) : Prop where
  /-- There is a tree exactly if there is a verdict. -/
  tree : (∃ tree, grammar.parse source symbol = .ok tree) ↔
    ∃ verdict, grammar.Verdict source.toList (.symbol symbol) 0 verdict
  /-- The root has a fault exactly if the symbol is rejected. -/
  rejected : ∀ tree, grammar.parse source symbol = .ok tree →
    (tree.fault ≠ none ↔ grammar.Rejects source.toList symbol 0)
  /-- There is no fault at all exactly if the symbol is accepted and nothing is left behind it. -/
  accepted : ∀ tree, grammar.parse source symbol = .ok tree →
    (tree.hasFault = false ↔ ∃ stop, grammar.Accepts source.toList symbol 0 stop ∧
      skipFrom grammar.comments source.toList stop = .ok (Text.byteLength source.toList))

theorem parseShowsVerdict {source : String} (hsymbol : grammar.isNonterminal symbol = true) :
    grammar.ParseShowsVerdict source symbol := by
  have hbegin : (Place.begin source.toList).At source.toList := Place.at_begin source.toList
  -- The verdict is the one of the node that the parse begins with.
  have hverdict : ∀ {root place verdict}, grammar.Matches symbol (.begin source.toList) root place →
      (grammar.Verdict source.toList (.symbol symbol) 0 verdict ↔
        outcome root.stop root.fault = verdict) := fun h => h.verdict_iff hbegin
  refine ⟨⟨?_, ?_⟩, ?_, ?_⟩
  · rintro ⟨tree, h⟩
    obtain ⟨root, place, hmatch, -⟩ := exists_of_parse_eq_ok h
    exact ⟨_, (hverdict hmatch).2 rfl⟩
  · rintro ⟨verdict, h⟩
    obtain ⟨root, place, hmatch, -⟩ := h.reaches hbegin.isBoundary
    have hzero : Place.ofOffset source.toList 0 = .begin source.toList := hbegin.eq_ofOffset.symm
    rw [hzero] at hmatch
    exact ⟨_, parse_eq_ok_iff.2 ⟨hsymbol, root, place, hmatch, rfl⟩⟩
  · intro tree h
    obtain ⟨root, place, hmatch, hends⟩ := exists_of_parse_eq_ok h
    rw [Rejects, hverdict hmatch, outcome_eq_none_iff, hends.fault_eq]
  · intro tree h
    obtain ⟨root, place, hmatch, hends⟩ := exists_of_parse_eq_ok h
    obtain ⟨hle, hstop⟩ := hmatch.le
    rw [hends.hasFault_eq_false_iff hmatch.fails.1 (hbegin.of_le hle)]
    simp only [Accepts, hverdict hmatch, outcome_eq_some_iff, hstop]
    constructor
    · rintro ⟨hfault, hskip⟩
      exact ⟨place.offset, ⟨hfault, rfl⟩, hskip⟩
    · rintro ⟨stop, ⟨hfault, rfl⟩, hskip⟩
      exact ⟨hfault, hskip⟩

/-- **Matching is recognition.** Matching a symbol at an offset that cuts no character returns a
node without a fault exactly if the symbol is accepted up to the end of that node, and one with a
fault exactly if the symbol is rejected; a parse shows what the verdict on its symbol is. -/
theorem matching_is_recognition {source name : String} {id offset : Nat}
    (hid : grammar.table.idOf? name = some id)
    (hoffset : Text.IsBoundary source.toList offset) :
    (∀ stop, (∃ tree, grammar.Returns source.toList id offset tree ∧ tree.fault = none ∧
      tree.stop = stop) ↔ grammar.Accepts source.toList name offset stop) ∧
    ((∃ tree, grammar.Returns source.toList id offset tree ∧ tree.fault ≠ none) ↔
      grammar.Rejects source.toList name offset) ∧
    ((∃! tree, grammar.Returns source.toList id offset tree) ↔
      ∃ verdict, grammar.Verdict source.toList (.symbol name) offset verdict) ∧
    (grammar.isNonterminal name = true → grammar.ParseShowsVerdict source name) := by
  refine ⟨fun stop => ?_, ?_, ⟨?_, ?_⟩, parseShowsVerdict⟩
  · rw [Accepts, verdict_iff_returns hid hoffset]
    simp only [outcome_eq_some_iff]
  · rw [Rejects, verdict_iff_returns hid hoffset]
    simp only [outcome_eq_none_iff]
  · rintro ⟨tree, hreturns, -⟩
    exact ⟨_, (verdict_iff_returns hid hoffset).2 ⟨tree, hreturns, rfl⟩⟩
  · rintro ⟨verdict, h⟩
    obtain ⟨tree, hreturns, -⟩ := (verdict_iff_returns hid hoffset).1 h
    refine ⟨tree, hreturns, fun tree' hreturns' => ?_⟩
    obtain ⟨next, hmatch⟩ := (returns_iff hid).1 hreturns
    obtain ⟨next', hmatch'⟩ := (returns_iff hid).1 hreturns'
    exact (hmatch'.unique hmatch).1

end

/-- Behind the first word of a row there is a row of one word, and then an empty row. -/
theorem matching_is_recognition_rows :
    rows.table.idOf? "Row" = some 0 ∧ Text.IsBoundary "a /*é*/ b z".toList 1 ∧
      rows.Accepts "a /*é*/ b z".toList "Row" 1 11 ∧
      rows.ParseShowsVerdict "a /*é*/ b z" "Row" := by
  have hid : rows.table.idOf? "Row" = some 0 := by cbv
  have hoffset : Text.IsBoundary "a /*é*/ b z".toList 1 :=
    ⟨"a".toList, " /*é*/ b z".toList, by cbv, by cbv⟩
  obtain ⟨haccepts, -, -, hparse⟩ := matching_is_recognition hid hoffset
  refine ⟨hid, hoffset, (haccepts 11).1 ⟨?_, ⟨5, ?_, ?_⟩, ?_⟩, hparse rfl⟩
  · exact ⟨"Row", 9, 11, [⟨"Word", 9, 10, [⟨"b", 9, 10, [], none⟩], none⟩,
      ⟨"Row", 11, 11, [], none⟩], none⟩
  · exact .ofOffset "a /*é*/ b z".toList 11
  · cbv
  · exact ⟨rfl, rfl⟩

end Grammar

end OrderedChoice
