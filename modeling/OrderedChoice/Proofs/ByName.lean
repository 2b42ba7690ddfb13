import OrderedChoice.Parse
import OrderedChoice.Proofs.Carry
import OrderedChoice.Proofs.SymbolTable

/-!
# Matching by name

`Grammar.matchName` matches a symbol straight from the rules: a name that has rules is a
nonterminal, every other name is read as a pattern where it is met, and nothing is numbered.
The symbol table only saves work:

* `Grammar.matchAt_eq_matchName`: matching a symbol by its number in the table is matching it by
  its name.

Later proofs are about names and never meet a number.
-/

namespace OrderedChoice

/-! ### Renaming the symbols of expansions -/

section

variable {σ τ : Type} {f : σ → τ} {step : τ → Place → Option (Tree × Place)}
  {step' : σ → Place → Option (Tree × Place)}

/-- Symbols that are matched alike give the same attempts. -/
theorem matchSequence_map {symbols : List σ}
    (h : ∀ symbol ∈ symbols, ∀ p, step (f symbol) p = step' symbol p) (p : Place) :
    matchSequence step (symbols.map f) p = matchSequence step' symbols p := by
  have hstep : ∀ symbol ∈ symbols, ∀ p : Place,
      step (f symbol) (p.shift 0) = (step' symbol p).map (carryResult id 0) := by
    rw [carryResult_id, Option.map_id]
    exact h
  have hcarry := matchSequence_carry hstep p
  rwa [Attempt.carry_id, Option.map_id] at hcarry

/-- Symbols that are matched alike give the same choice. -/
theorem matchChoice_map {expansions : List (List σ)} (p : Place)
    (h : ∀ symbols ∈ expansions, ∀ symbol ∈ symbols, ∀ p, step (f symbol) p = step' symbol p) :
    matchChoice step p none (expansions.map (·.map f)) = matchChoice step' p none expansions := by
  have hstep : ∀ symbols ∈ expansions, ∀ symbol ∈ symbols, ∀ p : Place,
      step (f symbol) (p.shift 0) = (step' symbol p).map (carryResult id 0) := by
    rw [carryResult_id, Option.map_id]
    exact h
  have hcarry := matchChoice_carry p none hstep
  rwa [Attempt.carry_id, Option.map_id, Option.map_id] at hcarry

end

namespace Grammar

variable [PatternEngine]

/-- **Matches a symbol by its name** at a place, with symbols nested to less than a bound. -/
def matchName (grammar : Grammar) : Nat → String → Place → Option (Tree × Place)
  | 0, _, _ => none
  | bound + 1, name, place =>
    match skip grammar.comments place with
    | .error opening => some (.failed name opening.offset .unterminatedComment, opening)
    | .ok place =>
      match grammar.rules.get? name with
      | some expansions =>
        (matchChoice (grammar.matchName bound) place none (expansions.map (·.symbols))).map
          (nodeOf name place)
      | none => (Pattern.ofText? name.toList).map fun pattern => matchTerminal name pattern place

/-- **The table does not show**: matching by number is matching by name. -/
theorem matchAt_eq_matchName (grammar : Grammar) (bound : Nat) {name : String}
    (hname : name ∈ Table.names grammar.rules) (p : Place) :
    grammar.matchAt bound ((Table.names grammar.rules).idxOf name) p =
      grammar.matchName bound name p := by
  -- The induction is on the bound, for all names at once: an expansion leads to other names.
  induction bound generalizing name p with
  | zero => rfl
  | succ bound ih =>
    obtain ⟨symbol, hsymbol, hresolve⟩ := get?_idxOf hname
    have hsame : symbol.name = name := Table.resolve_name hresolve
    rw [matchAt, matchSymbol, matchName, hsymbol]
    cases hskip : skip grammar.comments p with
    | error opening => simp only [hsame]
    | ok q =>
      cases hget : grammar.rules.get? name with
      | some expansions =>
        rw [Table.resolve, hget] at hresolve
        rw [← Except.ok.inj hresolve]
        -- The symbols of an expansion are listed, so the induction hypothesis is about them.
        have hlisted : ∀ symbols ∈ expansions.map (·.symbols), ∀ s ∈ symbols, ∀ place,
            grammar.matchAt bound ((Table.names grammar.rules).idxOf s) place =
              grammar.matchName bound s place := by
          intro symbols hsymbols s hs place
          obtain ⟨expansion, hmem, rfl⟩ := List.mem_map.1 hsymbols
          exact ih (Table.mem_names_of_mem_symbols hget hmem hs) place
        have hchoice := matchChoice_map q hlisted
        rw [List.map_map] at hchoice
        exact congrArg (Option.map (nodeOf name q)) hchoice
      | none =>
        rw [Table.resolve, hget] at hresolve
        cases hpattern : Pattern.ofText? name.toList with
        | none =>
          rw [hpattern] at hresolve
          cases hresolve
        | some pattern =>
          -- The pattern in the table is the one that the name is read as.
          rw [hpattern] at hresolve
          rw [← Except.ok.inj hresolve]
          rfl

/-- Every symbol of a grammar that is no nonterminal is a pattern. -/
theorem ofText?_of_mem_names {grammar : Grammar} {name : String}
    (hname : name ∈ Table.names grammar.rules) (hget : grammar.rules.get? name = none) :
    ∃ pattern, Pattern.ofText? name.toList = some pattern := by
  obtain ⟨symbol, -, hresolve⟩ := get?_idxOf hname
  rw [Table.resolve, hget] at hresolve
  cases hpattern : Pattern.ofText? name.toList with
  | none =>
    rw [hpattern] at hresolve
    cases hresolve
  | some pattern => exact ⟨pattern, rfl⟩

end Grammar

end OrderedChoice
