import OrderedChoice.Diagnostic
import OrderedChoice.Proofs.Offsets
import OrderedChoice.Proofs.Recognition
import OrderedChoice.Proofs.Spans

/-!
# A parse stays in range

A parse by offsets cuts the text in front of every symbol, looks up symbols by their numbers and
makes nodes out of two offsets. Each of these can be a mistake: the offset may lie inside a
character, the number may belong to no symbol, the node may end before it begins. Here is the
engine with all of this checked, attempts that are given up included, and a mistake ends the run
at once. No run makes one.

* `Checked.matchSymbol` and `Checked.parse` are the checked engine.
* `Grammar.table_closed`: the numbers in a symbol table are numbers of its symbols.
* `Checked.matchSymbol_agrees`: within every bound, checked and unchecked runs have one outcome.
* `Checked.parse_stays_in_range`: the only mistake is to ask for a symbol that is no nonterminal.
-/

namespace OrderedChoice

namespace Checked

variable [PatternEngine]

/-! ### The checked engine -/

/-- **Node of a tree**: it has to begin and end at places of the text, and not to end before it
begins. -/
def node (text : List Char) (symbol : String) (start stop : Nat) (children : List Tree)
    (fault : Option Fault) : Except Stop Tree := do
  let _ ← after text start
  let _ ← after text stop
  if stop < start then .error (.reversed start stop)
  return ⟨symbol, start, stop, children, fault⟩

/-- A node of no width that did not match. -/
def failed (text : List Char) (symbol : String) (offset : Nat) (fault : Fault) : Except Stop Tree :=
  node text symbol offset offset [] (some fault)

/-- **Symbol of a number.** -/
def symbol (table : Table) (id : Nat) : Except Stop Symbol :=
  match table.get? id with
  | some symbol => .ok symbol
  | none => .error (.number id)

/-- **Attempt** to match the symbols of an expansion. -/
structure Attempt where
  /-- The children, one for each symbol that was tried. -/
  children : List Tree
  /-- How far the attempt came. -/
  stop : Nat
  /-- Why the last child did not match, if it did not. -/
  fault : Option Fault

/-- The better one of two attempts: the one that came further, or else the earlier one. -/
def Attempt.further (best : Option Attempt) (attempt : Attempt) : Attempt :=
  match best with
  | none => attempt
  | some best => if best.stop < attempt.stop then attempt else best

section

variable (step : Nat → Nat → Except Stop Tree)

/-- **Matches symbols from left to right**, each from where the one before it ends. -/
def matchSequence : List Nat → Nat → Except Stop Attempt
  | [], offset => return ⟨[], offset, none⟩
  | id :: ids, offset => do
    let child ← step id offset
    match child.fault with
    | some fault => return ⟨[child], child.stop, some fault⟩
    | none =>
      let attempt ← matchSequence ids child.stop
      return { attempt with children := child :: attempt.children }

/-- **Tries expansions in order**, after those of which `best` came furthest. -/
def matchChoice (offset : Nat) : Option Attempt → List (List Nat) → Except Stop (Option Attempt)
  | best, [] => return best
  | best, expansion :: expansions => do
    let attempt ← matchSequence step expansion offset
    if attempt.fault.isNone then return some attempt
    else matchChoice offset (some (attempt.further best)) expansions

end

/-- **Matches a terminal** from an offset. -/
def matchTerminal (text : List Char) (name : String) (pattern : Pattern) (offset : Nat) :
    Except Stop Tree := do
  let rest ← after text offset
  match pattern.matchBytes? rest with
  | some n => node text name offset (offset + n) [] none
  | none => failed text name offset .noMatch

/-- The node of a nonterminal from the attempt that is reported for it. -/
def nodeOf (text : List Char) (name : String) (offset : Nat) : Option Attempt → Except Stop Tree
  | some attempt => node text name offset attempt.stop attempt.children attempt.fault
  | none => failed text name offset .noMatch

/-- **Matches a symbol from an offset**, with symbols nested in each other to less than a bound. -/
def matchSymbol (table : Table) (comments : List Comment) (text : List Char) :
    Nat → Nat → Nat → Except Stop Tree
  | 0, _, _ => .error .bound
  | bound + 1, id, offset => do
    let symbol ← symbol table id
    match ← skip comments text offset with
    | .error opening => failed text symbol.name opening .unterminatedComment
    | .ok offset =>
      match symbol.meaning with
      | .terminal pattern => matchTerminal text symbol.name pattern offset
      | .nonterminal expansions =>
        let chosen ← matchChoice (matchSymbol table comments text bound) offset none expansions
        nodeOf text symbol.name offset chosen

/-- The root of a tree with another end and perhaps a last child. -/
def extended (text : List Char) (root : Tree) (stop : Nat) (trailing : Option Tree) :
    Except Stop Tree :=
  node text root.symbol root.start stop (root.children ++ trailing.toList) root.fault

/-- **Finishes a tree** whose root has matched. -/
def finish (grammar : Grammar) (text : List Char) (symbol : String) (root : Tree) :
    Except Stop Tree := do
  match ← skip grammar.comments text root.stop with
  | .ok stop =>
    if stop = Text.byteLength text then extended text root stop none
    else extended text root stop (← failed text "" stop (.unparsableAfter symbol))
  | .error opening =>
    extended text root opening (← failed text "" opening .unterminatedComment)

/-- **Parses a source text as a symbol**, within a bound. -/
def parse (grammar : Grammar) (bound : Nat) (source symbol : String) : Except Stop Tree :=
  match grammar.table.idOf? symbol with
  | none => .error (.unknown symbol)
  | some id =>
    if grammar.isNonterminal symbol then do
      let text := source.toList
      let root ← matchSymbol grammar.table grammar.comments text bound id 0
      if root.fault.isSome then return root else finish grammar text symbol root
    else
      .error (.unknown symbol)

/-! ### Looking at a tree -/

/-- The text that a node covers. -/
def content (source : String) (node : Tree) : Except Stop String := do
  return String.ofList (← between source.toList node.start node.stop)

/-- The line in which a node begins. -/
def startLine (source : String) (node : Tree) : Except Stop Nat := do
  return Text.lineFeeds (← upTo source.toList node.start)

/-- How many bytes a node covers. -/
def width (node : Tree) : Except Stop Nat :=
  if node.stop < node.start then .error (.reversed node.start node.stop)
  else .ok (node.stop - node.start)

/-- **Diagnostic of a tree**, if it has a fault. -/
def diagnostic (source : String) (tree : Tree) : Except Stop (Option Diagnostic) :=
  match tree.failurePath.reverse with
  | [] => return none
  | failure :: above =>
    match failure.fault with
    | none => return none
    | some fault => do
      let line ← startLine source failure
      let length ← width failure
      let enclosing := (above.head?.getD failure).symbol
      let (text, help) := Diagnostic.remarks failure.symbol enclosing fault
      return some
        { fault
          symbol := failure.symbol
          line := line + 1
          label := ⟨failure.start, length, text⟩
          help := some help }

end Checked

/-! ### Numbers of symbols -/

/-- **A symbol table is closed**: its nonterminals refer to symbols of the table. -/
def Table.Closed [PatternEngine] (table : Table) : Prop :=
  ∀ id name expansions, table.get? id = some ⟨name, .nonterminal expansions⟩ →
    ∀ expansion ∈ expansions, ∀ part ∈ expansion, part < table.size

/-- **The table of a grammar is closed.** -/
theorem Grammar.table_closed [PatternEngine] (grammar : Grammar) : grammar.table.Closed := by
  intro id name numbered hget expansion hexpansion part hpart
  obtain ⟨hnames, hresolve⟩ := grammar.table_symbols
  have hsize : grammar.table.size = (Table.names grammar.rules).length := by
    rw [← hnames, List.length_map, Array.length_toList, Table.size]
  -- Every symbol of the table is what its name stands for.
  have hmem := hresolve _ (Array.mem_toList_iff.2 (Array.mem_of_getElem? hget))
  rw [Table.resolve] at hmem
  split at hmem
  · next expansions hrules =>
    -- The numbers are those of the names in the expansions, and these are listed.
    obtain rfl : Table.number (Table.names grammar.rules) expansions = numbered :=
      Meaning.nonterminal.inj (Symbol.mk.inj (Except.ok.inj hmem)).2
    obtain ⟨named, hnamed, rfl⟩ := List.mem_map.1 hexpansion
    obtain ⟨symbol, hsymbol, rfl⟩ := List.mem_map.1 hpart
    rw [hsize]
    exact List.idxOf_lt_length_iff.2 (Table.mem_names_of_mem_symbols hrules hnamed hsymbol)
  · -- A name without rules stands for a terminal, or for nothing.
    split at hmem
    · cases (Symbol.mk.inj (Except.ok.inj hmem)).2
    · cases hmem

namespace Checked

variable {text : List Char} {p q : Place}

/-! ### Nodes -/

theorem node_eq (hp : p.At text) (hle : p ≤ q) (symbol : String) (children : List Tree)
    (fault : Option Fault) :
    node text symbol p.offset q.offset children fault =
      .ok ⟨symbol, p.offset, q.offset, children, fault⟩ := by
  rw [node, after_eq hp, ok_bind, after_eq (hp.of_le hle), ok_bind,
    if_neg (Nat.not_lt.2 (Place.offset_le hle))]
  rfl

theorem failed_eq (hp : p.At text) (symbol : String) (fault : Fault) :
    failed text symbol p.offset fault = .ok (.failed symbol p.offset fault) :=
  node_eq hp (le_refl p) symbol [] (some fault)

theorem extended_eq {root : Tree} (hq : q.At text) (hstart : root.start = q.offset) {next : Place}
    (hle : q ≤ next) (trailing : Option Tree) :
    extended text root next.offset trailing =
      .ok { root with stop := next.offset, children := root.children ++ trailing.toList } := by
  rw [extended, hstart, node_eq hq hle, ← hstart]

/-! ### Agreement of checked and unchecked runs -/

/-- **One outcome**: both runs lack the bound, or both have results, and these belong together. -/
@[mk_iff]
inductive Agrees {α β : Type} (R : α → β → Prop) : Except Stop α → Option β → Prop where
  | bound : Agrees R (.error .bound) none
  | ends {a : α} {b : β} (h : R a b) : Agrees R (.ok a) (some b)

/-- **Nodes that belong together** are the same one, which begins and ends at places behind the
one where the run began. -/
structure IsNode (p : Place) (tree : Tree) (result : Tree × Place) : Prop where
  /-- The nodes are the same. -/
  same : result.1 = tree
  /-- The node begins at a place, -/
  begins : ∃ q, p ≤ q ∧ q ≤ result.2 ∧ tree.start = q.offset
  /-- and ends at the place where the run goes on. -/
  stop : tree.stop = result.2.offset

theorem IsNode.le {tree : Tree} {result : Tree × Place} (h : IsNode p tree result) :
    p ≤ result.2 := by
  obtain ⟨q, hpq, hq, -⟩ := h.begins
  exact hpq.trans hq

/-- An attempt with its place given by an offset. -/
def ofAttempt (attempt : OrderedChoice.Attempt) : Attempt :=
  ⟨attempt.children, attempt.place.offset, attempt.fault⟩

/-- **Attempts that belong together.** -/
structure IsAttempt (p : Place) (checked : Attempt) (attempt : OrderedChoice.Attempt) : Prop where
  /-- They are the same, but for the place. -/
  same : checked = ofAttempt attempt
  /-- An attempt goes forward. -/
  le : p ≤ attempt.place

/-- **Choices that belong together.** -/
structure IsChoice (p : Place) (checked : Option Attempt) (chosen : Option OrderedChoice.Attempt) :
    Prop where
  /-- They are the same, but for the place. -/
  same : checked = chosen.map ofAttempt
  /-- An attempt goes forward. -/
  le : ∀ attempt, chosen = some attempt → p ≤ attempt.place

section

variable {check : Nat → Nat → Except Stop Tree} {step : Nat → Place → Option (Tree × Place)}

theorem matchSequence_agrees {ids : List Nat}
    (h : ∀ id ∈ ids, ∀ q : Place, q.At text → Agrees (IsNode q) (check id q.offset) (step id q))
    (hp : p.At text) :
    Agrees (IsAttempt p) (matchSequence check ids p.offset)
      (OrderedChoice.matchSequence step ids p) := by
  induction ids generalizing p with
  | nil => exact .ends ⟨rfl, le_refl p⟩
  | cons id ids ih =>
    rw [matchSequence, OrderedChoice.matchSequence]
    rcases (agrees_iff ..).1 (h id List.mem_cons_self p hp) with
      ⟨hcheck, hstep⟩ | ⟨child, ⟨child', next⟩, hnode, hcheck, hstep⟩
    · rw [hcheck, hstep]
      exact .bound
    · obtain rfl : child' = child := hnode.same
      rw [hcheck, hstep, ok_bind]
      -- The checked run goes on from where the child ends, which is where the other one is.
      have hle : p ≤ next := hnode.le
      have hstop : child'.stop = next.offset := hnode.stop
      cases hfault : child'.fault with
      | some fault =>
        simp only [hfault, hstop]
        exact .ends ⟨rfl, hle⟩
      | none =>
        have hrest := ih (fun id hid => h id (List.mem_cons_of_mem _ hid)) (hp.of_le hle)
        simp only [hfault, hstop]
        rcases (agrees_iff ..).1 hrest with
          ⟨hchecked, hrun⟩ | ⟨checked, attempt, hattempt, hchecked, hrun⟩
        · rw [hchecked, hrun]
          exact .bound
        · rw [hchecked, hrun, ok_bind, hattempt.same]
          exact .ends ⟨rfl, hle.trans hattempt.le⟩

theorem further_ofAttempt (best : Option OrderedChoice.Attempt) (attempt : OrderedChoice.Attempt) :
    (ofAttempt attempt).further (best.map ofAttempt) = ofAttempt (attempt.further best) := by
  cases best with
  | none => rfl
  | some best => exact (apply_ite ofAttempt _ _ _).symm

theorem matchChoice_agrees {expansions : List (List Nat)}
    (h : ∀ expansion ∈ expansions, ∀ id ∈ expansion, ∀ q : Place, q.At text →
      Agrees (IsNode q) (check id q.offset) (step id q))
    (hp : p.At text) (best : Option OrderedChoice.Attempt)
    (hbest : ∀ attempt, best = some attempt → p ≤ attempt.place) :
    Agrees (IsChoice p) (matchChoice check p.offset (best.map ofAttempt) expansions)
      (OrderedChoice.matchChoice step p best expansions) := by
  induction expansions generalizing best with
  | nil => exact .ends ⟨rfl, hbest⟩
  | cons expansion expansions ih =>
    rw [matchChoice, OrderedChoice.matchChoice]
    rcases (agrees_iff ..).1 (matchSequence_agrees (h expansion List.mem_cons_self) hp) with
      ⟨hchecked, hrun⟩ | ⟨checked, attempt, ⟨hsame, hle⟩, hchecked, hrun⟩
    · rw [hchecked, hrun]
      exact .bound
    · rw [hchecked, hrun, ok_bind, hsame]
      have hfault : (ofAttempt attempt).fault = attempt.fault := rfl
      simp only [hfault]
      split
      · exact .ends ⟨rfl, fun other heq => Option.some.inj heq ▸ hle⟩
      · -- The attempt is given up; the better one of it and the best goes forward as they do.
        have hfurther : p ≤ (attempt.further best).place := by
          rcases OrderedChoice.Attempt.further_eq_or best attempt with hnew | hold
          · rw [hnew]
            exact hle
          · exact hbest _ hold
        rw [further_ofAttempt]
        exact ih (fun other hother => h other (List.mem_cons_of_mem _ hother))
          (some (attempt.further best)) fun other heq => Option.some.inj heq ▸ hfurther

end

theorem nodeOf_agrees (hq : q.At text) (hle : p ≤ q) (name : String) {checked : Option Attempt}
    {chosen : Option OrderedChoice.Attempt} (h : IsChoice q checked chosen) :
    Agrees (IsNode p) (nodeOf text name q.offset checked)
      (some (OrderedChoice.nodeOf name q chosen)) := by
  rw [h.same]
  cases hchosen : chosen with
  | some attempt =>
    have hattempt := h.le attempt hchosen
    simp only [Option.map_some, ofAttempt, nodeOf, node_eq hq hattempt]
    exact .ends ⟨rfl, ⟨q, hle, hattempt, rfl⟩, rfl⟩
  | none =>
    simp only [Option.map_none, nodeOf, failed_eq hq]
    exact .ends ⟨rfl, ⟨q, hle, le_refl q, rfl⟩, rfl⟩

/-! ### Single symbols -/

section

variable [PatternEngine]

theorem matchTerminal_agrees (hq : q.At text) (hle : p ≤ q) (name : String) (pattern : Pattern) :
    Agrees (IsNode p) (matchTerminal text name pattern q.offset)
      (some (OrderedChoice.matchTerminal name pattern q)) := by
  rw [matchTerminal, after_eq hq, ok_bind, Pattern.matchBytes?, OrderedChoice.matchTerminal]
  cases pattern.matchLength? q.rest with
  | some n =>
    -- A match takes up whole characters of the text that is left, so it ends at a place.
    have hnode := node_eq hq (q.advance_le n) name [] none
    rw [Place.advance] at hnode
    simp only [Option.map_some, hnode]
    exact .ends ⟨rfl, ⟨q, hle, q.advance_le n, rfl⟩, rfl⟩
  | none =>
    simp only [Option.map_none, failed_eq hq]
    exact .ends ⟨rfl, ⟨q, hle, le_refl q, rfl⟩, rfl⟩

theorem symbol_eq {table : Table} {id : Nat} (hid : id < table.size) :
    ∃ found, symbol table id = .ok found ∧ table.get? id = some found := by
  have hget : table.get? id = some table.symbols[id] := Array.getElem?_eq_getElem hid
  exact ⟨_, by rw [symbol, hget], hget⟩

/-- **Checked and unchecked runs have one outcome**, within every bound: from a place of the text
no cut fails, no number is out of the table, and no node ends before it begins. -/
theorem matchSymbol_agrees {table : Table} (hclosed : table.Closed) (comments : List Comment)
    (bound : Nat) {id : Nat} (hid : id < table.size) (hp : p.At text) :
    Agrees (IsNode p) (matchSymbol table comments text bound id p.offset)
      (OrderedChoice.matchSymbol table comments bound id p) := by
  -- The induction is on the bound, for all symbols and places at once.
  induction bound generalizing id p with
  | zero => exact .bound
  | succ bound ih =>
    obtain ⟨⟨name, meaning⟩, hsymbol, hget⟩ := symbol_eq hid
    rw [matchSymbol, OrderedChoice.matchSymbol, hsymbol, hget, ok_bind, skip_eq comments hp,
      ok_bind]
    cases hskip : OrderedChoice.skip comments p with
    | error opening =>
      have hle := le_of_skip_error hskip
      rw [skipFrom_of_skip_error hp hskip]
      simp only [failed_eq (hp.of_le hle)]
      exact .ends ⟨rfl, ⟨opening, hle, le_refl opening, rfl⟩, rfl⟩
    | ok q =>
      have hle := le_of_skip_ok hskip
      have hq := hp.of_le hle
      rw [skipFrom_of_skip_ok hp hskip]
      cases meaning with
      | terminal pattern => exact matchTerminal_agrees hq hle name pattern
      | nonterminal expansions =>
        have hchoice : Agrees (IsChoice q)
            (matchChoice (matchSymbol table comments text bound) q.offset none expansions)
            (OrderedChoice.matchChoice (OrderedChoice.matchSymbol table comments bound) q none
              expansions) :=
          matchChoice_agrees (fun expansion hexpansion part hpart q hq =>
            ih (hclosed id name expansions hget expansion hexpansion part hpart) hq) hq none
            fun attempt hattempt => absurd hattempt (Option.not_mem_none attempt)
        simp only
        rcases (agrees_iff ..).1 hchoice with
          ⟨hchecked, hrun⟩ | ⟨checked, chosen, hchosen, hchecked, hrun⟩
        · rw [hchecked, hrun]
          exact .bound
        · rw [hchecked, hrun, ok_bind]
          exact nodeOf_agrees hq hle name hchosen

/-! ### Parses -/

variable {grammar : Grammar} {source symbol : String}

theorem finish_eq {root : Tree} {place : Place} (hp : p.At text)
    (hroot : IsNode p root (root, place)) :
    finish grammar text symbol root = .ok (grammar.finish symbol root place) := by
  obtain ⟨q, hpq, hq, hstart⟩ := hroot.begins
  have hplace : place.At text := hp.of_le hroot.le
  -- The root begins in front of the place where it ended, so it can be extended from there.
  have hextended : ∀ {next : Place}, place ≤ next → ∀ trailing,
      extended text root next.offset trailing = .ok { root with
        stop := next.offset, children := root.children ++ trailing.toList } :=
    fun hle => extended_eq (hp.of_le hpq) hstart (hq.trans hle)
  have hstop : root.stop = place.offset := hroot.stop
  rw [finish, hstop, skip_eq grammar.comments hplace, ok_bind, Grammar.finish]
  cases hskip : OrderedChoice.skip grammar.comments place with
  | error opening =>
    have hle := le_of_skip_error hskip
    rw [skipFrom_of_skip_error hplace hskip]
    simp only [failed_eq (hplace.of_le hle), ok_bind, hextended hle]
    rfl
  | ok next =>
    have hle := le_of_skip_ok hskip
    have hnext := hplace.of_le hle
    rw [skipFrom_of_skip_ok hplace hskip]
    simp only [failed_eq hnext, ok_bind, hextended hle]
    -- The end of the text is told by the offset here, and by the text that is left there.
    by_cases hrest : next.rest = []
    · rw [if_pos (hnext.offset_of_rest_nil hrest), if_pos (List.isEmpty_iff.2 hrest)]
      simp only [Option.toList_none, List.append_nil]
    · rw [if_neg fun hend => hrest (hnext.rest_nil_of_offset hend),
        if_neg fun hempty => hrest (List.isEmpty_iff.1 hempty)]
      rfl

/-- **A checked parse and a run have one outcome.** -/
theorem parse_agrees (source : String) (hsymbol : grammar.isNonterminal symbol = true)
    (bound : Nat) :
    Agrees (fun tree result => grammar.treeOf symbol result.1 result.2 = tree)
      (parse grammar bound source symbol)
      (grammar.matchName bound symbol (.begin source.toList)) := by
  have hname := Table.mem_names_of_contains hsymbol
  have hbegin := Place.at_begin source.toList
  -- The symbol has a number, and the number is one of the table.
  have hid := Grammar.idOf?_eq_some_iff.2 ⟨hname, rfl⟩
  obtain ⟨found, hfound, -⟩ := Grammar.get?_idxOf hname
  have hlt : (Table.names grammar.rules).idxOf symbol < grammar.table.size :=
    (Array.getElem?_eq_some_iff.1 hfound).1
  have hrun := matchSymbol_agrees grammar.table_closed grammar.comments bound hlt hbegin
  have hzero : (Place.begin source.toList).offset = 0 := rfl
  rw [hzero] at hrun
  rw [parse, hid, ← Grammar.matchAt_eq_matchName grammar bound hname, Grammar.matchAt]
  simp only [hsymbol, if_true]
  rcases (agrees_iff ..).1 hrun with
    ⟨hchecked, hnone⟩ | ⟨root, ⟨root', place⟩, hnode, hchecked, hsome⟩
  · rw [hchecked, hnone]
    exact .bound
  · obtain rfl : root' = root := hnode.same
    rw [hchecked, hsome, ok_bind, finish_eq hbegin hnode]
    split
    · next hfault => exact .ends (if_pos hfault)
    · next hfault => exact .ends (if_neg hfault)

/-- A checked parse as a nonterminal gives a tree or lacks the bound. -/
theorem parse_eq_of_isNonterminal (source : String)
    (hsymbol : grammar.isNonterminal symbol = true) (bound : Nat) :
    parse grammar bound source symbol = .error .bound ∨
      ∃ tree, parse grammar bound source symbol = .ok tree ∧
        grammar.parse source symbol = .ok tree := by
  rcases (agrees_iff ..).1 (parse_agrees source hsymbol bound) with
    ⟨hbound, -⟩ | ⟨tree, ⟨root, place⟩, htree, hparse, hrun⟩
  · exact .inl hbound
  · refine .inr ⟨tree, hparse, Grammar.parse_eq_ok_iff.2 ⟨hsymbol, root, place, ?_, htree⟩⟩
    exact ⟨bound, hrun⟩

theorem exists_parse_eq_ok {tree : Tree} (h : grammar.parse source symbol = .ok tree) :
    ∃ bound, parse grammar bound source symbol = .ok tree := by
  obtain ⟨hsymbol, root, place, ⟨bound, hrun⟩, rfl⟩ := Grammar.parse_eq_ok_iff.1 h
  refine ⟨bound, ?_⟩
  rcases (agrees_iff ..).1 (parse_agrees source hsymbol bound) with
    ⟨-, hnone⟩ | ⟨tree, result, rfl, hparse, hsome⟩
  · cases hnone.symm.trans hrun
  · obtain rfl := Option.some.inj (hsome.symm.trans hrun)
    exact hparse

theorem parse_eq_unknown (hsymbol : grammar.isNonterminal symbol = false) (bound : Nat)
    (source : String) : parse grammar bound source symbol = .error (.unknown symbol) := by
  rw [parse, hsymbol]
  split <;> rfl

end

/-! ### Trees -/

variable {source : String}

theorem content_eq {node : Tree} (h : node.Covers source.toList) :
    content source node = .ok (node.content source) := by
  have hstart := Place.at_ofOffset h.start_boundary
  have hle := hstart.le_of_offset_le (Place.at_ofOffset h.stop_boundary) h.ordered
  have hbetween := between_eq hstart hle
  rw [Place.ofOffset_offset, Place.ofOffset_offset] at hbetween
  rw [content, hbetween, ok_bind]
  rfl

theorem startLine_eq {node : Tree} (h : node.Covers source.toList) :
    startLine source node = .ok (node.startLine source) := by
  have hupTo := upTo_eq (Place.at_ofOffset h.start_boundary)
  rw [Place.ofOffset_offset] at hupTo
  rw [startLine, hupTo, ok_bind]
  rfl

theorem diagnostic_eq {tree : Tree} (h : ∀ node ∈ tree.nodes, node.Covers source.toList) :
    diagnostic source tree = .ok (Diagnostic.ofTree? source tree) := by
  rw [diagnostic, Diagnostic.ofTree?]
  cases hpath : tree.failurePath.reverse with
  | nil => rfl
  | cons failure above =>
    -- What failed is a node of the tree, and so it covers a part of the text.
    have hmem : failure ∈ tree.failurePath := by
      rw [← List.mem_reverse, hpath]
      exact List.mem_cons_self
    have hcovers := h failure (Tree.mem_nodes_of_mem_failurePath hmem)
    cases hfault : failure.fault with
    | none => simp only [hfault, Option.map_none]; rfl
    | some fault =>
      simp only [hfault, startLine_eq hcovers, ok_bind, width,
        if_neg (Nat.not_lt.2 hcovers.ordered), Option.map_some]
      rfl

/-! ### No mistake -/

section

variable [PatternEngine] {grammar : Grammar} {symbol : String}

/-- **A parse stays in range.** -/
structure StaysInRange (grammar : Grammar) (source symbol : String) : Prop where
  /-- Within every bound, the only mistake is to ask for a symbol that is no nonterminal. -/
  mistake_iff : ∀ bound stop, stop ≠ .bound →
    (parse grammar bound source symbol = .error stop ↔
      grammar.isNonterminal symbol = false ∧ stop = .unknown symbol)
  /-- The checked parse gives the tree of the parse, if the bound is large enough. -/
  gives_iff : ∀ tree, (∃ bound, parse grammar bound source symbol = .ok tree) ↔
    grammar.parse source symbol = .ok tree
  /-- No bound is large enough exactly if the parse is endless. -/
  endless_iff : (∀ bound, parse grammar bound source symbol = .error .bound) ↔
    grammar.parse source symbol = .error .endless
  /-- The text that a node covers can be cut out. -/
  content_eq : ∀ tree, grammar.parse source symbol = .ok tree → ∀ node ∈ tree.nodes,
    content source node = .ok (node.content source)
  /-- So can the text in front of it. -/
  startLine_eq : ∀ tree, grammar.parse source symbol = .ok tree → ∀ node ∈ tree.nodes,
    startLine source node = .ok (node.startLine source)
  /-- The node that failed does not end before it begins. -/
  diagnostic_eq : ∀ tree, grammar.parse source symbol = .ok tree →
    diagnostic source tree = .ok (Diagnostic.ofTree? source tree)

theorem mistake_iff {bound : Nat} {stop : Stop} (hstop : stop ≠ .bound) :
    parse grammar bound source symbol = .error stop ↔
      grammar.isNonterminal symbol = false ∧ stop = .unknown symbol := by
  cases hsymbol : grammar.isNonterminal symbol with
  | false =>
    rw [parse_eq_unknown hsymbol, Except.error.injEq]
    exact ⟨fun h => ⟨rfl, h.symm⟩, fun h => h.2.symm⟩
  | true =>
    refine ⟨fun h => ?_, fun h => nomatch h.1⟩
    rcases parse_eq_of_isNonterminal source hsymbol bound with hbound | ⟨tree, hparse, -⟩
    · exact absurd (Except.error.inj (h.symm.trans hbound)) hstop
    · cases h.symm.trans hparse

theorem exists_parse_eq_ok_iff {tree : Tree} :
    (∃ bound, parse grammar bound source symbol = .ok tree) ↔
      grammar.parse source symbol = .ok tree := by
  refine ⟨fun ⟨bound, h⟩ => ?_, exists_parse_eq_ok⟩
  cases hsymbol : grammar.isNonterminal symbol with
  | false => cases (parse_eq_unknown hsymbol bound source).symm.trans h
  | true =>
    rcases parse_eq_of_isNonterminal source hsymbol bound with hbound | ⟨found, hfound, hparse⟩
    · cases hbound.symm.trans h
    · obtain rfl := Except.ok.inj (hfound.symm.trans h)
      exact hparse

theorem parse_eq_bound_iff :
    (∀ bound, parse grammar bound source symbol = .error .bound) ↔
      grammar.parse source symbol = .error .endless := by
  cases hsymbol : grammar.isNonterminal symbol with
  | false =>
    -- Neither of the two looks for a bound.
    have hparse : grammar.parse source symbol = .error (.unknownSymbol symbol) :=
      Grammar.parse_eq_unknownSymbol_iff.2 ⟨hsymbol, rfl⟩
    refine ⟨fun h => ?_, fun h => ?_⟩
    · cases (parse_eq_unknown hsymbol 0 source).symm.trans (h 0)
    · cases hparse.symm.trans h
  | true =>
    rw [Grammar.parse_eq_endless_iff hsymbol]
    refine ⟨fun h tree htree => ?_, fun h bound => ?_⟩
    · obtain ⟨bound, hbound⟩ := exists_parse_eq_ok htree
      cases (h bound).symm.trans hbound
    · rcases parse_eq_of_isNonterminal source hsymbol bound with hbound | ⟨tree, -, htree⟩
      · exact hbound
      · exact absurd htree (h tree)

/-- **A parse stays in range**, whatever the grammar, the source text and the symbol: no text is cut
inside a character or behind its end, no number is out of the symbol table and no node ends before
it begins, neither in an attempt that is kept nor in one that is given up, nor afterwards, when the
tree is looked at. The only mistake is to ask for a symbol that is no nonterminal. -/
theorem parse_stays_in_range (grammar : Grammar) (source symbol : String) :
    StaysInRange grammar source symbol := by
  have hcovers : ∀ tree, grammar.parse source symbol = .ok tree →
      ∀ node ∈ tree.nodes, node.Covers source.toList := by
    intro tree htree
    obtain ⟨root, place, hmatch, hends⟩ := Grammar.exists_of_parse_eq_ok htree
    exact (hends.spansNested hmatch (Place.at_begin source.toList)).covers
  refine ⟨fun bound stop hstop => mistake_iff hstop, fun tree => exists_parse_eq_ok_iff,
    parse_eq_bound_iff, fun tree htree node hnode => ?_, fun tree htree node hnode => ?_,
    fun tree htree => ?_⟩
  · exact content_eq (hcovers tree htree node hnode)
  · exact startLine_eq (hcovers tree htree node hnode)
  · exact diagnostic_eq (hcovers tree htree)

end

/-! The checks do fail where they should, and a parse meets characters of several bytes. -/

example : after "é".toList 1 = .error (.cut 1) := by decide

example : node "aé".toList "Word" 3 1 [] none = .error (.reversed 3 1) := by cbv

example : parse Grammar.rows 9 "/*é*/ b" "Word" =
    .ok ⟨"Word", 7, 8, [⟨"b", 7, 8, [], none⟩], none⟩ := by cbv

end Checked

end OrderedChoice
