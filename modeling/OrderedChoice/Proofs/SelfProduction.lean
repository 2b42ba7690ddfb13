import Mathlib.Data.Finset.Card
import Mathlib.Data.List.Chain
import Mathlib.Data.List.Dedup
import OrderedChoice.Proofs.Findings

/-!
# What the check reports as self-producing

An expansion is reported as self-producing if all its symbols are its own nonterminal, or if it
passes on to a nonterminal from which a chain leads back. The check looks for the chain by walking
along it, until it ends, comes back or comes to some nonterminal for the second time. The last case
is the one to be careful about, since a chain may run into a circle that does not contain the
nonterminal it has set out from:

* `Rules.walks_chainReaches`: the walk always ends, since every step sees another nonterminal.
* `Rules.Walks.verdict_iff`: it ends with the right verdict. What has been seen passes on to what
  has been seen, so a walk that comes to some of it again comes to nothing else.
* `Grammar.selfProducing_is_exact`: the report lists what produces itself, in order and nothing
  else.

A chain that runs into a circle is not reported for itself. But some nonterminal of the circle is:

* `Grammar.endless_chain_is_reported`: if nothing is reported, every chain ends, and a chain that
  does not end comes to a nonterminal that is reported.
-/

namespace OrderedChoice

namespace Rules

variable {rules : Rules} {origin : String} {seen : List String} {current : Option String}

/-! ### The walk along a chain -/

/-- **A walk along a chain** that has seen some nonterminals, and its verdict: whether it comes to
`origin`. There is no bound to its steps. -/
inductive Walks (rules : Rules) (origin : String) : List String → Option String → Bool → Prop where
  /-- The chain has ended. -/
  | ended (seen : List String) : Walks rules origin seen none false
  /-- The chain has come back. -/
  | back (seen : List String) : Walks rules origin seen (some origin) true
  /-- The chain has come to a nonterminal for the second time. -/
  | again {seen : List String} {name : String} : name ≠ origin → name ∈ seen →
    Walks rules origin seen (some name) false
  /-- The walk goes on from a nonterminal that is new to it. -/
  | step {seen : List String} {name : String} {verdict : Bool} : name ≠ origin → name ∉ seen →
    Walks rules origin (name :: seen) (rules.next? name) verdict →
    Walks rules origin seen (some name) verdict

/-- There are no more nonterminals to see than the rules have. -/
theorem length_le_size (hseen : seen.Nodup) (hmem : ∀ name ∈ seen, rules.contains name = true) :
    seen.length ≤ rules.size := by
  have hsubset : seen ⊆ rules.nonterminals := fun name hname => contains_iff.1 (hmem name hname)
  have hle := (hseen.subperm hsubset).length_le
  rwa [nonterminals, List.length_map] at hle

/-- **The walk ends before its bound runs out**, if the bound is greater than the number of
nonterminals that have not been seen. -/
theorem walks_chainReaches {bound : Nat} (hseen : seen.Nodup)
    (hmem : ∀ name ∈ seen, rules.contains name = true)
    (hcurrent : ∀ name, current = some name → rules.contains name = true)
    (hbound : rules.size < seen.length + bound) :
    rules.Walks origin seen current (rules.chainReaches origin bound seen current) := by
  -- A step takes one from the bound and adds one to what has been seen.
  induction bound generalizing seen current with
  | zero => exact absurd (length_le_size hseen hmem) (Nat.not_le.2 hbound)
  | succ bound ih =>
    cases current with
    | none =>
      rw [chainReaches]
      exact .ended seen
    | some name =>
      rw [chainReaches]
      by_cases horigin : name = origin
      · rw [if_pos horigin, horigin]
        exact .back seen
      · rw [if_neg horigin]
        by_cases hagain : name ∈ seen
        · rw [if_pos (List.contains_iff_mem.2 hagain)]
          exact .again horigin hagain
        · rw [if_neg (mt List.contains_iff_mem.1 hagain)]
          refine .step horigin hagain (ih ?_ ?_ ?_ ?_)
          · exact List.nodup_cons.2 ⟨hagain, hseen⟩
          · exact List.forall_mem_cons.2 ⟨hcurrent name rfl, hmem⟩
          · exact fun other hnext => (next?_eq_some_iff.1 hnext).2
          · rw [List.length_cons]
            omega

/-- What passes on only to itself is not left by a chain. -/
theorem mem_of_reaches {name other : String}
    (hclosed : ∀ name ∈ seen, ∀ next, rules.PassesOn name next → next ∈ seen) (hname : name ∈ seen)
    (h : Relation.ReflTransGen rules.PassesOn name other) : other ∈ seen := by
  induction h with
  | refl => exact hname
  | tail _ hstep ih => exact hclosed _ ih _ hstep

/-- **The verdict of a walk is right**, if nonterminals that have been seen pass on only to such
ones and to the one that the walk has come to. -/
theorem Walks.verdict_iff {verdict : Bool} (h : rules.Walks origin seen current verdict)
    (hnot : origin ∉ seen)
    (hclosed : ∀ name ∈ seen, ∀ other, rules.PassesOn name other →
      other ∈ seen ∨ current = some other) :
    verdict = true ↔
      ∃ name, current = some name ∧ Relation.ReflTransGen rules.PassesOn name origin := by
  -- Along the walk `hclosed` is kept: what has been seen passes on to what has been seen, or to
  -- where the walk is.
  induction h with
  | ended seen => exact ⟨nofun, fun ⟨name, hname, _⟩ => nomatch hname⟩
  | back seen => exact ⟨fun _ => ⟨origin, rfl, .refl⟩, fun _ => rfl⟩
  | @again seen name _ hagain =>
    refine ⟨nofun, ?_⟩
    rintro ⟨other, hother, hchain⟩
    obtain rfl := Option.some.inj hother
    refine absurd (mem_of_reaches (fun passed hpassed next hstep => ?_) hagain hchain) hnot
    -- What the walk has come to has been seen as well.
    rcases hclosed passed hpassed next hstep with hnext | hnext
    · exact hnext
    · exact Option.some.inj hnext ▸ hagain
  | @step seen name verdict horigin _ _ ih =>
    rw [ih (List.not_mem_cons_of_ne_of_not_mem (Ne.symm horigin) hnot) ?closed]
    case closed =>
      intro passed hpassed other hstep
      rcases List.mem_cons.1 hpassed with rfl | hpassed
      · exact .inr (next?_eq_some_iff.2 hstep)
      · rcases hclosed passed hpassed other hstep with hother | hother
        · exact .inl (List.mem_cons_of_mem name hother)
        · exact .inl (Option.some.inj hother ▸ List.mem_cons_self)
    constructor
    · rintro ⟨other, hnext, hchain⟩
      exact ⟨name, rfl, .head (next?_eq_some_iff.1 hnext) hchain⟩
    · rintro ⟨other, hother, hchain⟩
      obtain rfl := Option.some.inj hother
      rcases hchain.cases_head with heq | ⟨other, hstep, hrest⟩
      · exact absurd heq horigin
      · exact ⟨other, next?_eq_some_iff.2 hstep, hrest⟩

/-- **The walk of an expansion** ends, with the verdict that the check takes from it. -/
theorem walks_passesBack (rules : Rules) (origin : String) (expansion : Expansion) :
    rules.Walks origin [] (rules.passThrough? expansion) (rules.passesBack origin expansion) := by
  refine walks_chainReaches List.nodup_nil (fun _ hname => absurd hname List.not_mem_nil)
    (fun name hname => (passThrough?_eq_some_iff.1 hname).2) ?_
  rw [List.length_nil]
  omega

/-- A walk that has seen nothing yet says whether it comes to `origin`. -/
theorem Walks.verdict_iff_of_nil {verdict : Bool} (h : rules.Walks origin [] current verdict) :
    verdict = true ↔
      ∃ name, current = some name ∧ Relation.ReflTransGen rules.PassesOn name origin :=
  h.verdict_iff List.not_mem_nil fun _ hpassed => absurd hpassed List.not_mem_nil

/-- **The walk of an expansion has one verdict**, whichever way it ends. -/
theorem walks_iff {expansion : Expansion} {verdict : Bool} :
    rules.Walks origin [] (rules.passThrough? expansion) verdict ↔
      rules.passesBack origin expansion = verdict := by
  have hwalks := rules.walks_passesBack origin expansion
  constructor
  · intro h
    exact Bool.eq_iff_iff.2 (hwalks.verdict_iff_of_nil.trans h.verdict_iff_of_nil.symm)
  · rintro rfl
    exact hwalks

/-! ### What produces itself -/

/-- **An expansion passes back** to a nonterminal: it is the first one of some nonterminals, each of
which passes on to the next, and the last one is that nonterminal. -/
def LeadsBack (rules : Rules) (name : String) (expansion : Expansion) : Prop :=
  ∃ first rest, expansion = ⟨[first]⟩ ∧ rules.contains first = true ∧
    (first :: rest).IsChain rules.PassesOn ∧
    (first :: rest).getLast (List.cons_ne_nil first rest) = name

/-- **An expansion produces its own nonterminal**: it has symbols, and all of them are the
nonterminal, or it passes back to it. -/
def ProducesItself (rules : Rules) (name : String) (expansion : Expansion) : Prop :=
  (expansion.symbols ≠ [] ∧ ∀ symbol ∈ expansion.symbols, symbol = name) ∨
    rules.LeadsBack name expansion

theorem leadsBack_iff {name : String} {expansion : Expansion} :
    rules.LeadsBack name expansion ↔ ∃ first, rules.passThrough? expansion = some first ∧
      Relation.ReflTransGen rules.PassesOn first name := by
  constructor
  · rintro ⟨first, rest, hexpansion, hfirst, hchain, hlast⟩
    exact ⟨first, passThrough?_eq_some_iff.2 ⟨hexpansion, hfirst⟩,
      List.relationReflTransGen_of_exists_isChain_cons rest hchain hlast⟩
  · rintro ⟨first, hpass, hreach⟩
    obtain ⟨hexpansion, hfirst⟩ := passThrough?_eq_some_iff.1 hpass
    obtain ⟨rest, hchain, hlast⟩ := List.exists_isChain_cons_of_relationReflTransGen hreach
    exact ⟨first, rest, hexpansion, hfirst, hchain, hlast⟩

/-- **The walk finds all there is.** -/
theorem passesBack_iff {name : String} {expansion : Expansion} :
    rules.passesBack name expansion = true ↔ rules.LeadsBack name expansion := by
  rw [leadsBack_iff]
  exact (walks_passesBack rules name expansion).verdict_iff_of_nil

theorem isSelfProducing_iff {name : String} {expansion : Expansion} :
    expansion.isSelfProducing name = true ↔
      expansion.symbols ≠ [] ∧ ∀ symbol ∈ expansion.symbols, symbol = name := by
  simp [Expansion.isSelfProducing, Expansion.isEmpty]

end Rules

namespace Grammar

variable [PatternEngine] {grammar : Grammar}

theorem mem_selfProducing_iff {finding : Finding} :
    finding ∈ grammar.selfProducing ↔
      (∃ expansions, grammar.rules.get? finding.nonterminal = some expansions ∧
        expansions[finding.index]? = some finding.expansion) ∧
      grammar.rules.ProducesItself finding.nonterminal finding.expansion := by
  rw [selfProducing, List.mem_filter, Rules.mem_alternatives_iff, Bool.or_eq_true,
    Rules.isSelfProducing_iff, Rules.passesBack_iff, Rules.ProducesItself]

/-- **The report of self-producing expansions is exact.** The walk of every expansion ends, with one
verdict, and that is the one that the report takes from it. The report is in order, and it lists the
expansions of the grammar that produce their own nonterminal. -/
theorem selfProducing_is_exact (grammar : Grammar) :
    (∀ name expansion verdict,
      grammar.rules.Walks name [] (grammar.rules.passThrough? expansion) verdict ↔
        grammar.rules.passesBack name expansion = verdict) ∧
    grammar.selfProducing.Pairwise Finding.Before ∧
    ∀ finding, finding ∈ grammar.selfProducing ↔
      (∃ expansions, grammar.rules.get? finding.nonterminal = some expansions ∧
        expansions[finding.index]? = some finding.expansion) ∧
      grammar.rules.ProducesItself finding.nonterminal finding.expansion :=
  ⟨fun _ _ _ => Rules.walks_iff, grammar.rules.alternatives_pairwise.filter _,
    fun _ => mem_selfProducing_iff⟩

end Grammar

namespace Rules

variable {rules : Rules} {expansion next : Expansion}

/-! ### Chains of sequences -/

/-- **What a sequence moves on to**: the only expansion of the nonterminal that it consists of. -/
def move? (rules : Rules) (expansion : Expansion) : Option Expansion :=
  match expansion.symbols with
  | [name] =>
    match rules.get? name with
    | some [next] => some next
    | _ => none
  | _ => none

/-- **The sequence after some moves**, if the chain does not end before. -/
def after? (rules : Rules) (expansion : Expansion) : Nat → Option Expansion
  | 0 => some expansion
  | steps + 1 => (rules.after? expansion steps).bind rules.move?

theorem move?_eq_some_iff :
    rules.move? expansion = some next ↔
      ∃ name, expansion = ⟨[name]⟩ ∧ rules.get? name = some [next] := by
  obtain ⟨symbols⟩ := expansion
  rw [move?]
  split
  · next name hsymbols =>
    obtain rfl : symbols = [name] := hsymbols
    split
    · next only hget =>
      rw [Option.some.injEq]
      constructor
      · rintro rfl
        exact ⟨name, rfl, hget⟩
      · rintro ⟨_, hname, hnext⟩
        obtain rfl := List.singleton_inj.1 (Expansion.mk.inj hname)
        exact List.singleton_inj.1 (Option.some.inj (hget.symm.trans hnext))
    · next hget =>
      refine ⟨nofun, ?_⟩
      rintro ⟨_, hname, hnext⟩
      obtain rfl := List.singleton_inj.1 (Expansion.mk.inj hname)
      exact absurd hnext (hget next)
  · next hsymbols =>
    refine ⟨nofun, ?_⟩
    rintro ⟨name, hname, -⟩
    exact absurd (Expansion.mk.inj hname) (hsymbols name)

/-- A chain that has a sequence after some moves has one after fewer. -/
theorem after?_ne_none_of_le {i n : Nat} (hle : i ≤ n) (h : rules.after? expansion n ≠ none) :
    rules.after? expansion i ≠ none := by
  induction hle with
  | refl => exact h
  | step _ ih =>
    refine ih fun hnone => h ?_
    rw [after?, hnone, Option.bind_none]

/-- **A chain that is no longer there has ended before.** -/
theorem exists_end_of_after?_eq_none {n : Nat} (h : rules.after? expansion (n + 1) = none) :
    ∃ steps ≤ n, ∃ last, rules.after? expansion steps = some last ∧ rules.move? last = none := by
  induction n with
  | zero => exact ⟨0, le_rfl, expansion, rfl, h⟩
  | succ n ih =>
    cases hlast : rules.after? expansion (n + 1) with
    | none =>
      obtain ⟨steps, hle, hend⟩ := ih hlast
      exact ⟨steps, Nat.le_succ_of_le hle, hend⟩
    | some last =>
      rw [after?, hlast, Option.bind_some] at h
      exact ⟨n + 1, le_rfl, last, hlast, h⟩

/-- **A sequence that moves on is a single nonterminal**, with what comes next as its only
expansion. -/
theorem exists_link {n : Nat} (h : rules.after? expansion (n + 1) ≠ none) :
    ∃ name, rules.after? expansion n = some ⟨[name]⟩ ∧
      ∃ next, rules.get? name = some [next] ∧ rules.after? expansion (n + 1) = some next := by
  obtain ⟨next, hnext⟩ := Option.ne_none_iff_exists'.1 h
  obtain ⟨current, hcurrent, hmove⟩ := Option.bind_eq_some_iff.1 hnext
  obtain ⟨name, rfl, hget⟩ := move?_eq_some_iff.1 hmove
  exact ⟨name, hcurrent, next, hget, hnext⟩

/-- **A chain with more moves than there are nonterminals runs into a circle**: it comes to a
nonterminal that passes on to another one, and from there back to itself. -/
theorem exists_circle (h : rules.after? expansion (rules.size + 1) ≠ none) :
    ∃ name, (∃ steps ≤ rules.size, rules.after? expansion steps = some ⟨[name]⟩) ∧
      Relation.TransGen rules.PassesOn name name := by
  have hlink : ∀ i, i ≤ rules.size → ∃ name, rules.after? expansion i = some ⟨[name]⟩ ∧
      ∃ next, rules.get? name = some [next] ∧ rules.after? expansion (i + 1) = some next :=
    fun i hi => exists_link (after?_ne_none_of_le (Nat.succ_le_succ hi) h)
  choose! link hlink hnext using hlink
  have hcontains : ∀ i, i ≤ rules.size → rules.contains (link i) = true := by
    intro i hi
    obtain ⟨next, hget, -⟩ := hnext i hi
    exact contains_of_get? hget
  have hpasses : ∀ i, i < rules.size → rules.PassesOn (link i) (link (i + 1)) := by
    intro i hi
    obtain ⟨next, hget, hafter⟩ := hnext i hi.le
    obtain rfl := Option.some.inj (hafter.symm.trans (hlink (i + 1) hi))
    exact ⟨hget, hcontains (i + 1) hi⟩
  -- The chain has one nonterminal more than there are, so it has some nonterminal twice.
  have hcard : rules.nonterminals.toFinset.card < (Finset.range (rules.size + 1)).card := by
    rw [Finset.card_range]
    refine Nat.lt_succ_of_le (rules.nonterminals.toFinset_card_le.trans ?_)
    rw [nonterminals, List.length_map]
    exact le_rfl
  have hmaps : Set.MapsTo link (Finset.range (rules.size + 1)) rules.nonterminals.toFinset := by
    intro i hi
    have hle : i ≤ rules.size := Nat.le_of_lt_succ (Finset.mem_range.1 hi)
    exact List.mem_toFinset.2 (contains_iff.1 (hcontains i hle))
  obtain ⟨i, hi, j, hj, hne, heq⟩ :=
    Finset.exists_ne_map_eq_of_card_lt_of_maps_to hcard hmaps
  have hcircle : ∀ i j, i < j → j ≤ rules.size → link i = link j →
      Relation.TransGen rules.PassesOn (link i) (link i) := by
    intro i j hlt hj heq
    have hchain : Relation.TransGen rules.PassesOn (link i) (link j) :=
      (transGen_of_succ_of_lt (fun i j => rules.PassesOn (link i) (link j))
        (fun k hk => hpasses k (hk.2.trans_le hj)) hlt).lift link fun _ _ hstep => hstep
    rwa [← heq] at hchain
  have hi := Nat.le_of_lt_succ (Finset.mem_range.1 hi)
  have hj := Nat.le_of_lt_succ (Finset.mem_range.1 hj)
  rcases Nat.lt_or_gt_of_ne hne with hlt | hlt
  · exact ⟨link i, ⟨i, hi, hlink i hi⟩, hcircle i j hlt hj heq⟩
  · exact ⟨link j, ⟨j, hj, hlink j hj⟩, hcircle j i hlt hi heq.symm⟩

end Rules

namespace Grammar

section

variable [PatternEngine] {grammar : Grammar}

/-- **A nonterminal that passes on back to itself is reported**, with its only expansion. -/
theorem exists_finding_of_circle {name : String}
    (h : Relation.TransGen grammar.rules.PassesOn name name) :
    ∃ finding ∈ grammar.selfProducing, finding.nonterminal = name := by
  obtain ⟨first, hstep, hback⟩ := Relation.TransGen.head'_iff.1 h
  refine ⟨⟨name, 0, ⟨[first]⟩⟩, mem_selfProducing_iff.2 ⟨⟨_, hstep.1, rfl⟩, .inr ?_⟩, rfl⟩
  exact Rules.leadsBack_iff.2 ⟨first, Rules.passThrough?_eq_some_iff.2 ⟨rfl, hstep.2⟩, hback⟩

/-- **No endless chain goes unreported.** If no expansion is reported as self-producing, the chain
from any sequence ends after at most as many moves as there are nonterminals. And if such a chain
does not end, it comes to a nonterminal with a reported expansion after that many moves at most. -/
theorem endless_chain_is_reported (grammar : Grammar) (expansion : Expansion) :
    (grammar.selfProducing = [] →
      ∃ steps ≤ grammar.rules.size, ∃ last, grammar.rules.after? expansion steps = some last ∧
        grammar.rules.move? last = none) ∧
    ((∀ steps, grammar.rules.after? expansion steps ≠ none) →
      ∃ finding ∈ grammar.selfProducing, ∃ steps ≤ grammar.rules.size,
        grammar.rules.after? expansion steps = some ⟨[finding.nonterminal]⟩) := by
  have hreported : grammar.rules.after? expansion (grammar.rules.size + 1) ≠ none →
      ∃ finding ∈ grammar.selfProducing, ∃ steps ≤ grammar.rules.size,
        grammar.rules.after? expansion steps = some ⟨[finding.nonterminal]⟩ := by
    intro hlong
    obtain ⟨name, hcomes, hcircle⟩ := Rules.exists_circle hlong
    obtain ⟨finding, hfinding, rfl⟩ := exists_finding_of_circle hcircle
    exact ⟨finding, hfinding, hcomes⟩
  refine ⟨fun hnil => Rules.exists_end_of_after?_eq_none ?_, fun hendless => hreported (hendless _)⟩
  by_contra hlong
  obtain ⟨finding, hfinding, -⟩ := hreported hlong
  exact absurd (hnil ▸ hfinding) List.not_mem_nil

end

/-- The rules of a chain that runs into a circle without its beginning. -/
def lassoRules : Rules where
  entries := [("Loop", [⟨["Loop"]⟩]), ("Rope", [⟨["Loop"]⟩])]
  ordered := by decide
  named := by simp

/-- **A chain that runs into a circle** without its beginning. -/
def lasso : Grammar where
  rules := lassoRules
  start := none
  comments := []
  table := (Table.ofRules lassoRules).toOption.getD ⟨#[]⟩
  start_mem := nofun
  table_eq := by cbv

/-- The chain from the expansion of `Rope` does not end. It is not reported for itself, but it comes
to a nonterminal that is. And in a grammar without reports every chain ends. -/
theorem endless_chain_is_reported_lasso :
    (∀ steps, lasso.rules.after? ⟨["Loop"]⟩ steps ≠ none) ∧
      lasso.selfProducing = [⟨"Loop", 0, ⟨["Loop"]⟩⟩] ∧
      (∃ finding ∈ lasso.selfProducing, ∃ steps ≤ 2,
        lasso.rules.after? ⟨["Loop"]⟩ steps = some ⟨[finding.nonterminal]⟩) ∧
      rows.selfProducing = [] ∧
      ∃ steps ≤ 2, ∃ last, rows.rules.after? ⟨["Word", "Row"]⟩ steps = some last ∧
        rows.rules.move? last = none := by
  have hround : ∀ steps, lasso.rules.after? ⟨["Loop"]⟩ steps = some ⟨["Loop"]⟩ := by
    intro steps
    induction steps with
    | zero => rfl
    | succ steps ih =>
      rw [Rules.after?, ih]
      rfl
  have hendless : ∀ steps, lasso.rules.after? ⟨["Loop"]⟩ steps ≠ none := by
    intro steps
    rw [hround steps]
    exact Option.some_ne_none _
  have hrows : rows.selfProducing = [] := by cbv
  exact ⟨hendless, by cbv, (endless_chain_is_reported lasso ⟨["Loop"]⟩).2 hendless, hrows,
    (endless_chain_is_reported rows ⟨["Word", "Row"]⟩).1 hrows⟩

end Grammar

end OrderedChoice
