import OrderedChoice.Proofs.ByName
import OrderedChoice.Proofs.Skip

/-!
# Runs without a bound

`Grammar.matchName` gives up when symbols are nested too deeply for its bound. What matters is
what it gives when the bound is large enough: `Grammar.Matches` says that some bound is. This
module states the engine as relations that know of no bound:

* `Spells` is matching the symbols of an expansion one after another, and `Chooses` is trying
  expansions in order, when a relation says how a single symbol is matched.
* `Grammar.Matches.unterminated`, `Grammar.Matches.terminal` and `Grammar.Matches.nonterminal`
  are the rules of `Grammar.Matches`, and `Grammar.Matches.induction` is the induction along them.
* `Grammar.Matches.node_induction` is the same induction for statements about the node that
  results, for which it does not matter why an expansion was chosen.
-/

namespace OrderedChoice

/-- How a symbol is matched: its name, the place where matching begins, the node that results and
the place where that node ends. -/
abbrev Reading := String → Place → Tree → Place → Prop

/-! ### Symbols one after another -/

/-- **Symbols are matched from left to right** up to the first one that does not match. -/
inductive Spells (R : Reading) : List String → Place → Attempt → Prop where
  | nil (p : Place) : Spells R [] p ⟨[], p, none⟩
  | fail {name : String} {p next : Place} {child : Tree} {fault : Fault} (names : List String) :
    R name p child next → child.fault = some fault →
      Spells R (name :: names) p ⟨[child], next, some fault⟩
  | cons {name : String} {names : List String} {p next : Place} {child : Tree}
      {attempt : Attempt} :
    R name p child next → child.fault = none → Spells R names next attempt →
      Spells R (name :: names) p ⟨child :: attempt.children, attempt.place, attempt.fault⟩

/-- What holds of a place and is kept by single symbols is kept by a sequence. -/
theorem Spells.imp {R S : Reading} {I : Place → Prop}
    (h : ∀ name p tree q, I p → R name p tree q → S name p tree q ∧ I q)
    {names : List String} {p : Place} {attempt : Attempt} (hspells : Spells R names p attempt)
    (hp : I p) : Spells S names p attempt ∧ I attempt.place := by
  induction hspells with
  | nil p => exact ⟨.nil p, hp⟩
  | fail names hchild hfault =>
    obtain ⟨hchild, hnext⟩ := h _ _ _ _ hp hchild
    exact ⟨.fail names hchild hfault, hnext⟩
  | cons hchild hfault _ ih =>
    obtain ⟨hchild, hnext⟩ := h _ _ _ _ hp hchild
    obtain ⟨hrest, hend⟩ := ih hnext
    exact ⟨.cons hchild hfault hrest, hend⟩

theorem Spells.mono {R S : Reading} (h : ∀ name p tree q, R name p tree q → S name p tree q)
    {names : List String} {p : Place} {attempt : Attempt} (hspells : Spells R names p attempt) :
    Spells S names p attempt :=
  (hspells.imp (I := fun _ => True)
    (fun name p tree q _ hR => ⟨h name p tree q hR, trivial⟩) trivial).1

/-- If single symbols go forward, a sequence does. -/
theorem Spells.le {R : Reading} (hR : ∀ name p tree q, R name p tree q → p ≤ q)
    {names : List String} {p : Place} {attempt : Attempt} (h : Spells R names p attempt) :
    p ≤ attempt.place :=
  (h.imp (I := fun q => p ≤ q) (fun _ _ _ _ hq hread => ⟨hread, hq.trans (hR _ _ _ _ hread)⟩)
    (le_refl p)).2

/-- An attempt without children has tried nothing. -/
theorem Spells.of_children_nil {R : Reading} {names : List String} {p : Place}
    {attempt : Attempt} (h : Spells R names p attempt) (hchildren : attempt.children = []) :
    attempt.place = p ∧ attempt.fault = none := by
  cases h with
  | nil p => exact ⟨rfl, rfl⟩
  | fail names _ _ => cases hchildren
  | cons _ _ _ => cases hchildren

/-- Every child of an attempt is the node of one of the symbols. -/
theorem Spells.exists_of_mem_children {R : Reading} {names : List String} {p : Place}
    {attempt : Attempt} {child : Tree} (h : Spells R names p attempt)
    (hchild : child ∈ attempt.children) : ∃ name ∈ names, ∃ q next, R name q child next := by
  induction h with
  | nil p => cases hchild
  | fail names hread _ =>
    rw [List.mem_singleton] at hchild
    subst hchild
    exact ⟨_, List.mem_cons_self, _, _, hread⟩
  | cons hread _ _ ih =>
    rcases List.mem_cons.1 hchild with rfl | hrest
    · exact ⟨_, List.mem_cons_self, _, _, hread⟩
    · obtain ⟨name, hname, hread⟩ := ih hrest
      exact ⟨name, List.mem_cons_of_mem _ hname, hread⟩

/-- `matchSequence` is matching symbols one after another. -/
theorem matchSequence_eq_some_iff {step : String → Place → Option (Tree × Place)}
    {names : List String} {p : Place} {attempt : Attempt} :
    matchSequence step names p = some attempt ↔
      Spells (fun name p tree q => step name p = some (tree, q)) names p attempt := by
  constructor
  · intro h
    induction names generalizing p attempt with
    | nil =>
      rw [← Option.some.inj h]
      exact .nil p
    | cons name names ih =>
      rw [matchSequence] at h
      split at h
      · cases h
      · next child next hstep =>
        split at h
        · -- The first symbol does not match, and the rest is not tried.
          next fault hfault =>
          rw [← Option.some.inj h]
          exact .fail names hstep hfault
        · -- It matches, and the rest is tried from where it ends.
          next hfault =>
          split at h
          · cases h
          · next rest hrest =>
            rw [← Option.some.inj h]
            exact .cons hstep hfault (ih hrest)
  · intro h
    induction h with
    | nil p => rfl
    | fail names hstep hfault =>
      rw [matchSequence, hstep]
      simp only [hfault]
    | cons hstep hfault _ ih =>
      rw [matchSequence, hstep]
      simp only [hfault, ih]

/-! ### Expansions in order -/

/-- **Expansions are tried in order**, after those of which `best` came furthest. The first attempt
without a fault is chosen, or else the one that came furthest. -/
inductive Chooses (R : Reading) (p : Place) :
    Option Attempt → List Expansion → Option Attempt → Prop where
  | done (best : Option Attempt) : Chooses R p best [] best
  | found {expansion : Expansion} {attempt : Attempt} (best : Option Attempt)
      (expansions : List Expansion) :
    Spells R expansion.symbols p attempt → attempt.fault = none →
      Chooses R p best (expansion :: expansions) (some attempt)
  | later {expansion : Expansion} {expansions : List Expansion} {attempt : Attempt}
      {best chosen : Option Attempt} :
    Spells R expansion.symbols p attempt → attempt.fault ≠ none →
      Chooses R p (some (attempt.further best)) expansions chosen →
      Chooses R p best (expansion :: expansions) chosen

theorem Chooses.imp {R S : Reading} {I : Place → Prop}
    (h : ∀ name p tree q, I p → R name p tree q → S name p tree q ∧ I q)
    {expansions : List Expansion} {p : Place} {best chosen : Option Attempt}
    (hchooses : Chooses R p best expansions chosen) (hp : I p) :
    Chooses S p best expansions chosen := by
  induction hchooses with
  | done best => exact .done best
  | found best expansions hspells hfault => exact .found best expansions (hspells.imp h hp).1 hfault
  | later hspells hfault _ ih => exact .later (hspells.imp h hp).1 hfault ih

theorem Chooses.mono {R S : Reading} (h : ∀ name p tree q, R name p tree q → S name p tree q)
    {expansions : List Expansion} {p : Place} {best chosen : Option Attempt}
    (hchooses : Chooses R p best expansions chosen) : Chooses S p best expansions chosen :=
  hchooses.imp (I := fun _ => True)
    (fun name p tree q _ hR => ⟨h name p tree q hR, trivial⟩) trivial

/-- `matchChoice` is trying expansions in order. -/
theorem matchChoice_eq_some_iff {step : String → Place → Option (Tree × Place)}
    {expansions : List Expansion} {p : Place} {best chosen : Option Attempt} :
    matchChoice step p best (expansions.map (·.symbols)) = some chosen ↔
      Chooses (fun name p tree q => step name p = some (tree, q)) p best expansions chosen := by
  constructor
  · intro h
    induction expansions generalizing best with
    | nil =>
      rw [← Option.some.inj h]
      exact .done best
    | cons expansion expansions ih =>
      rw [List.map_cons, matchChoice] at h
      split at h
      · cases h
      · next attempt hattempt =>
        have hspells := matchSequence_eq_some_iff.1 hattempt
        -- An attempt without a fault ends the search; after any other it goes on.
        split at h
        · next hfault =>
          rw [← Option.some.inj h]
          exact .found best expansions hspells (Option.isNone_iff_eq_none.1 hfault)
        · next hfault =>
          exact .later hspells (fun hnone => hfault (Option.isNone_iff_eq_none.2 hnone)) (ih h)
  · intro h
    induction h with
    | done best => rfl
    | found best expansions hspells hfault =>
      rw [List.map_cons, matchChoice, matchSequence_eq_some_iff.2 hspells]
      simp only [hfault, Option.isNone_none, if_true]
    | later hspells hfault _ ih =>
      rw [List.map_cons, matchChoice, matchSequence_eq_some_iff.2 hspells]
      simp only [Option.isNone_iff_eq_none, if_neg hfault, ih]

/-- The better one of two attempts is one of them. -/
theorem Attempt.further_eq_or (best : Option Attempt) (attempt : Attempt) :
    attempt.further best = attempt ∨ best = some (attempt.further best) := by
  cases best with
  | none => exact .inl rfl
  | some best =>
    by_cases hlt : best.place.offset < attempt.place.offset
    · exact .inl (if_pos hlt)
    · exact .inr (congrArg some (if_neg hlt).symm)

/-- What is chosen is one of the attempts, or the one that came furthest before them. -/
theorem Chooses.eq_or_spells {R : Reading} {p : Place} {best chosen : Option Attempt}
    {expansions : List Expansion} (h : Chooses R p best expansions chosen) :
    chosen = best ∨ ∃ expansion ∈ expansions, ∃ attempt,
      chosen = some attempt ∧ Spells R expansion.symbols p attempt := by
  induction h with
  | done best => exact .inl rfl
  | found best expansions hspells _ => exact .inr ⟨_, List.mem_cons_self, _, rfl, hspells⟩
  | @later expansion expansions attempt best chosen hspells _ _ ih =>
    rcases ih with hfurther | ⟨other, hmem, hother⟩
    · -- The best attempt so far was chosen: it is this one, or was the best before it.
      rcases Attempt.further_eq_or best attempt with hnew | hold
      · rw [hnew] at hfurther
        exact .inr ⟨expansion, List.mem_cons_self, attempt, hfurther, hspells⟩
      · exact .inl (hfurther.trans hold.symm)
    · exact .inr ⟨other, List.mem_cons_of_mem _ hmem, hother⟩

/-- Nothing is chosen only if there is nothing to choose from. -/
theorem Chooses.eq_nil {R : Reading} {p : Place} {best chosen : Option Attempt}
    {expansions : List Expansion} (h : Chooses R p best expansions chosen)
    (hchosen : chosen = none) : best = none ∧ expansions = [] := by
  induction h with
  | done best => exact ⟨hchosen, rfl⟩
  | found best expansions _ _ => cases hchosen
  | later _ _ _ ih =>
    -- From here on there is a best attempt.
    cases (ih hchosen).1

namespace Grammar

variable [PatternEngine]

/-! ### Matching, whatever the bound -/

/-- **Matching a symbol ends**, with this node and at this place, if the bound is large enough. -/
def Matches (grammar : Grammar) (name : String) (p : Place) (tree : Tree) (next : Place) : Prop :=
  ∃ bound, grammar.matchName bound name p = some (tree, next)

variable {grammar : Grammar}

/-- The node and the place of a nonterminal, from what has been chosen for it. -/
theorem matchName_succ_nonterminal {bound : Nat} {name : String} {p q : Place}
    {expansions : List Expansion} (hskip : skip grammar.comments p = .ok q)
    (hget : grammar.rules.get? name = some expansions) {result : Tree × Place} :
    grammar.matchName (bound + 1) name p = some result ↔
      ∃ chosen, Chooses (fun name p tree q => grammar.matchName bound name p = some (tree, q))
        q none expansions chosen ∧ nodeOf name q chosen = result := by
  rw [matchName, hskip]
  simp only [hget, Option.map_eq_some_iff, matchChoice_eq_some_iff]

/-- What every bound but zero gives for a symbol that is no nonterminal. -/
theorem matchName_succ_of_get?_none {name : String} (hget : grammar.rules.get? name = none)
    (bound : Nat) (p : Place) :
    grammar.matchName (bound + 1) name p = grammar.matchName 1 name p := by
  rw [matchName, matchName]
  simp only [hget]

/-- **A larger bound keeps the result.** -/
theorem matchName_mono {bound bound' : Nat} (hle : bound ≤ bound') {name : String} {p : Place}
    {result : Tree × Place} (h : grammar.matchName bound name p = some result) :
    grammar.matchName bound' name p = some result := by
  -- A larger bound is not zero either, and one level down it is the larger one again.
  induction bound generalizing bound' name p result with
  | zero => cases h
  | succ bound ih =>
    obtain ⟨bound', rfl⟩ : ∃ b, bound' = b + 1 := ⟨bound' - 1, by omega⟩
    have hle' : bound ≤ bound' := Nat.le_of_succ_le_succ hle
    cases hskip : skip grammar.comments p with
    | error opening =>
      rw [matchName, hskip] at h ⊢
      exact h
    | ok q =>
      cases hget : grammar.rules.get? name with
      | none =>
        rw [matchName_succ_of_get?_none hget] at h ⊢
        exact h
      | some expansions =>
        rw [matchName_succ_nonterminal hskip hget] at h ⊢
        obtain ⟨chosen, hchooses, hnode⟩ := h
        exact ⟨chosen, hchooses.mono fun _ _ _ _ hstep => ih hle' hstep, hnode⟩

/-- A symbol that matches does so in one way only. -/
theorem Matches.unique {name : String} {p next next' : Place} {tree tree' : Tree}
    (h : grammar.Matches name p tree next) (h' : grammar.Matches name p tree' next') :
    tree = tree' ∧ next = next' := by
  obtain ⟨bound, hbound⟩ := h
  obtain ⟨bound', hbound'⟩ := h'
  -- Both results are found with the larger one of the two bounds.
  have hfirst := matchName_mono (Nat.le_max_left bound bound') hbound
  have hsecond := matchName_mono (Nat.le_max_right bound bound') hbound'
  rw [hfirst] at hsecond
  exact Prod.mk.inj (Option.some.inj hsecond)

/-! ### The rules -/

theorem Matches.unterminated (name : String) {p opening : Place}
    (hskip : skip grammar.comments p = .error opening) :
    grammar.Matches name p (.failed name opening.offset .unterminatedComment) opening :=
  ⟨1, by rw [matchName, hskip]⟩

theorem Matches.terminal {name : String} {p q : Place} {pattern : Pattern}
    (hskip : skip grammar.comments p = .ok q) (hget : grammar.rules.get? name = none)
    (hpattern : Pattern.ofText? name.toList = some pattern) :
    grammar.Matches name p (matchTerminal name pattern q).1 (matchTerminal name pattern q).2 := by
  refine ⟨1, ?_⟩
  rw [matchName, hskip]
  simp only [hget, hpattern, Option.map_some]

/-- Symbols that match one after another do so with one bound for all. -/
theorem exists_bound_of_spells {names : List String} {p : Place} {attempt : Attempt}
    (h : Spells grammar.Matches names p attempt) :
    ∃ bound, Spells (fun name p tree q => grammar.matchName bound name p = some (tree, q))
      names p attempt := by
  induction h with
  | nil p => exact ⟨0, .nil p⟩
  | fail names hchild hfault =>
    obtain ⟨bound, hbound⟩ := hchild
    exact ⟨bound, .fail names hbound hfault⟩
  | cons hchild hfault _ ih =>
    -- The larger bound does for the first symbol and for the rest.
    obtain ⟨bound, hbound⟩ := hchild
    obtain ⟨bound', hbound'⟩ := ih
    refine ⟨max bound bound', .cons ?_ hfault (hbound'.mono fun _ _ _ _ h => ?_)⟩
    · exact matchName_mono (Nat.le_max_left bound bound') hbound
    · exact matchName_mono (Nat.le_max_right bound bound') h

/-- Expansions that are tried in order are so with one bound for all. -/
theorem exists_bound_of_chooses {p : Place} {best chosen : Option Attempt}
    {expansions : List Expansion} (h : Chooses grammar.Matches p best expansions chosen) :
    ∃ bound, Chooses (fun name p tree q => grammar.matchName bound name p = some (tree, q))
      p best expansions chosen := by
  induction h with
  | done best => exact ⟨0, .done best⟩
  | found best expansions hspells hfault =>
    obtain ⟨bound, hbound⟩ := exists_bound_of_spells hspells
    exact ⟨bound, .found best expansions hbound hfault⟩
  | later hspells hfault _ ih =>
    obtain ⟨bound, hbound⟩ := exists_bound_of_spells hspells
    obtain ⟨bound', hbound'⟩ := ih
    refine ⟨max bound bound', .later (hbound.mono fun _ _ _ _ h => ?_) hfault
      (hbound'.mono fun _ _ _ _ h => ?_)⟩
    · exact matchName_mono (Nat.le_max_left bound bound') h
    · exact matchName_mono (Nat.le_max_right bound bound') h

theorem Matches.nonterminal {name : String} {p q : Place} {expansions : List Expansion}
    {chosen : Option Attempt} (hskip : skip grammar.comments p = .ok q)
    (hget : grammar.rules.get? name = some expansions)
    (hchooses : Chooses grammar.Matches q none expansions chosen) :
    grammar.Matches name p (nodeOf name q chosen).1 (nodeOf name q chosen).2 := by
  obtain ⟨bound, hbound⟩ := exists_bound_of_chooses hchooses
  exact ⟨bound + 1, (matchName_succ_nonterminal hskip hget).2 ⟨chosen, hbound, rfl⟩⟩

/-- **Induction along a run.** For a nonterminal the hypothesis is there for every symbol that was
tried, in whichever expansion. -/
theorem Matches.induction {motive : Reading}
    (unterminated : ∀ name p opening, skip grammar.comments p = .error opening →
      motive name p (.failed name opening.offset .unterminatedComment) opening)
    (terminal : ∀ name p q pattern, skip grammar.comments p = .ok q →
      grammar.rules.get? name = none → Pattern.ofText? name.toList = some pattern →
      motive name p (matchTerminal name pattern q).1 (matchTerminal name pattern q).2)
    (nonterminal : ∀ name p q expansions chosen, skip grammar.comments p = .ok q →
      grammar.rules.get? name = some expansions →
      Chooses (fun name p tree q => grammar.Matches name p tree q ∧ motive name p tree q)
        q none expansions chosen →
      motive name p (nodeOf name q chosen).1 (nodeOf name q chosen).2)
    {name : String} {p next : Place} {tree : Tree} (h : grammar.Matches name p tree next) :
    motive name p tree next := by
  obtain ⟨bound, h⟩ := h
  -- Symbols inside an expansion are matched with a bound that is less by one.
  induction bound generalizing name p tree next with
  | zero => cases h
  | succ bound ih =>
    cases hskip : skip grammar.comments p with
    | error opening =>
      rw [matchName, hskip] at h
      obtain ⟨rfl, rfl⟩ := Prod.mk.inj (Option.some.inj h)
      exact unterminated name p opening hskip
    | ok q =>
      cases hget : grammar.rules.get? name with
      | none =>
        rw [matchName, hskip] at h
        simp only [hget] at h
        obtain ⟨pattern, hpattern, hresult⟩ := Option.map_eq_some_iff.1 h
        have hterminal := terminal name p q pattern hskip hget hpattern
        rwa [hresult] at hterminal
      | some expansions =>
        obtain ⟨chosen, hchooses, hresult⟩ := (matchName_succ_nonterminal hskip hget).1 h
        have hnonterminal := nonterminal name p q expansions chosen hskip hget
          (hchooses.mono fun _ _ _ _ hstep => ⟨⟨bound, hstep⟩, ih hstep⟩)
        rwa [hresult] at hnonterminal

/-- **Induction along the nodes of a run.** A nonterminal without expansions has a node of its own
kind; every other one has the children of one of its expansions. -/
theorem Matches.node_induction {motive : Reading}
    (unterminated : ∀ name p opening, skip grammar.comments p = .error opening →
      motive name p (.failed name opening.offset .unterminatedComment) opening)
    (matched : ∀ name p q pattern n, skip grammar.comments p = .ok q →
      grammar.rules.get? name = none → Pattern.ofText? name.toList = some pattern →
      pattern.matchLength? q.rest = some n →
      motive name p ⟨name, q.offset, (q.advance n).offset, [], none⟩ (q.advance n))
    (unmatched : ∀ name p q pattern, skip grammar.comments p = .ok q →
      grammar.rules.get? name = none → Pattern.ofText? name.toList = some pattern →
      pattern.matchLength? q.rest = none → motive name p (.failed name q.offset .noMatch) q)
    (barren : ∀ name p q, skip grammar.comments p = .ok q → grammar.rules.get? name = some [] →
      motive name p (.failed name q.offset .noMatch) q)
    (spelled : ∀ name p q expansions expansion attempt, skip grammar.comments p = .ok q →
      grammar.rules.get? name = some expansions → expansion ∈ expansions →
      Spells (fun name p tree q => grammar.Matches name p tree q ∧ motive name p tree q)
        expansion.symbols q attempt →
      motive name p ⟨name, q.offset, attempt.place.offset, attempt.children, attempt.fault⟩
        attempt.place)
    {name : String} {p next : Place} {tree : Tree} (h : grammar.Matches name p tree next) :
    motive name p tree next := by
  refine h.induction unterminated ?_ ?_
  · intro name p q pattern hskip hget hpattern
    rw [matchTerminal]
    split
    · next n hlength => exact matched name p q pattern n hskip hget hpattern hlength
    · next hlength => exact unmatched name p q pattern hskip hget hpattern hlength
  · intro name p q expansions chosen hskip hget hchooses
    cases chosen with
    | none =>
      -- Nothing is chosen only where there is nothing to choose from.
      obtain ⟨-, rfl⟩ := hchooses.eq_nil rfl
      exact barren name p q hskip hget
    | some attempt =>
      -- Why this attempt was chosen is forgotten here: it is one of those that were made.
      rcases hchooses.eq_or_spells with hbest | ⟨expansion, hmem, other, hother, hspells⟩
      · cases hbest
      · obtain rfl := Option.some.inj hother
        exact spelled name p q expansions expansion attempt hskip hget hmem hspells

/-- **A run goes forward**, and its node ends where the run does. -/
theorem Matches.le {name : String} {p next : Place} {tree : Tree}
    (h : grammar.Matches name p tree next) : p ≤ next ∧ tree.stop = next.offset := by
  refine h.node_induction (motive := fun _ p tree next => p ≤ next ∧ tree.stop = next.offset)
    ?unterminated ?matched ?unmatched ?barren ?spelled
  case unterminated =>
    intro name p opening hskip
    exact ⟨le_of_skip_error hskip, rfl⟩
  case matched =>
    intro name p q pattern n hskip _ _ _
    exact ⟨(le_of_skip_ok hskip).trans (q.advance_le n), rfl⟩
  case unmatched =>
    intro name p q pattern hskip _ _ _
    exact ⟨le_of_skip_ok hskip, rfl⟩
  case barren =>
    intro name p q hskip _
    exact ⟨le_of_skip_ok hskip, rfl⟩
  case spelled =>
    intro name p q expansions expansion attempt hskip _ _ hspells
    -- Every symbol begins behind `q`, because the one before it has ended there.
    have hrow := (hspells.imp (I := fun r => q ≤ r)
      (fun name r tree s hr hchild => ⟨hchild, hr.trans hchild.2.1⟩) (le_refl q)).2
    exact ⟨(le_of_skip_ok hskip).trans hrow, rfl⟩

/-- So do symbols one after another. -/
theorem le_of_spells {names : List String} {p : Place} {attempt : Attempt}
    (h : Spells grammar.Matches names p attempt) : p ≤ attempt.place :=
  h.le fun _ _ _ _ hread => hread.le.1

/-- A child of an expansion is the node of a symbol of the grammar, read at a place of the text. -/
theorem exists_reading_of_child {motive : Reading} {text : List Char} {name : String}
    {expansions : List Expansion} {expansion : Expansion} {q : Place} {attempt : Attempt}
    {child : Tree} (hget : grammar.rules.get? name = some expansions)
    (hmem : expansion ∈ expansions)
    (hspells : Spells (fun name p tree q => grammar.Matches name p tree q ∧ motive name p tree q)
      expansion.symbols q attempt) (hq : q.At text) (hchild : child ∈ attempt.children) :
    ∃ part p next, part ∈ Table.names grammar.rules ∧ p.At text ∧ motive part p child next := by
  -- Every symbol is read where the one before it ended, so at a place of the text.
  have hat := (hspells.imp (I := fun p => p.At text)
    (S := fun name p tree next => p.At text ∧ motive name p tree next)
    (fun name p tree next hp hread => ⟨⟨hp, hread.2⟩, hp.of_le hread.1.le.1⟩) hq).1
  obtain ⟨part, hpart, p, next, hp, hmotive⟩ := hat.exists_of_mem_children hchild
  exact ⟨part, p, next, Table.mem_names_of_mem_symbols hget hmem hpart, hp, hmotive⟩

end Grammar

end OrderedChoice
