import OrderedChoice.Proofs.Furthest
import OrderedChoice.Proofs.Replacement

/-!
# Expansions that are never chosen

An expansion that begins with all the symbols of an earlier one of its nonterminal is dead. It is
tried only after the earlier one has failed, and then it fails at the same symbol, with the same
children, the same fault and at the same place. So it does not match, and it does not come further
than the best attempt so far, which came at least as far as the earlier one did. It is not reported
either.

Nothing changes if the expansion is deleted: not what matches, not what is reported, and not whether
matching ends, since the dead expansion asks for nothing that has not been answered already. This is
true to every depth of nesting, so it holds for the whole grammar, however the nonterminal comes up
in its own expansions.

* `matchSequence_append_of_fault`: symbols behind one that fails do not count.
* `matchChoice_dead`: a choice without the dead expansion gives the same.
* `Grammar.extending_expansion_is_dead`: so do all parses.
-/

namespace OrderedChoice

/-! ### Choices -/

section

variable {σ : Type} {step : σ → Place → Option (Tree × Place)}

/-- **Symbols behind one that fails do not count**: the attempt is the same without them. -/
theorem matchSequence_append_of_fault {front : List σ} (more : List σ) {p : Place}
    {attempt : Attempt} (h : matchSequence step front p = some attempt)
    (hfault : attempt.fault ≠ none) : matchSequence step (front ++ more) p = some attempt := by
  induction front generalizing p attempt with
  | nil =>
    -- No symbols at all do not fail.
    rw [← Option.some.inj h] at hfault
    exact absurd rfl hfault
  | cons symbol front ih =>
    rw [List.cons_append, matchSequence]
    rw [matchSequence] at h
    cases hstep : step symbol p with
    | none =>
      rw [hstep] at h
      cases h
    | some result =>
      obtain ⟨child, next⟩ := result
      simp only [hstep] at h ⊢
      cases hchild : child.fault with
      | some fault =>
        simp only [hchild] at h ⊢
        exact h
      | none =>
        simp only [hchild] at h ⊢
        cases hrest : matchSequence step front next with
        | none =>
          rw [hrest] at h
          cases h
        | some rest =>
          -- The failure is further on, among the symbols behind the first one.
          simp only [hrest] at h
          have hrestFault : rest.fault ≠ none := by
            rw [← Option.some.inj h] at hfault
            exact hfault
          simp only [ih hrest hrestFault]
          exact h

/-- An expansion that fails without coming further than the best attempt so far does not count. -/
theorem matchChoice_of_no_further {p : Place} {later : List σ} {attempt : Attempt}
    (h : matchSequence step later p = some attempt) (hfault : attempt.fault ≠ none)
    (between after : List (List σ)) {best : Attempt}
    (hle : attempt.place.offset ≤ best.place.offset) :
    matchChoice step p (some best) (between ++ later :: after) =
      matchChoice step p (some best) (between ++ after) := by
  -- The induction is on the expansions in front; the best attempt so far only gets better.
  induction between generalizing best with
  | nil =>
    have hsome : ¬ attempt.fault.isNone = true := fun hnone =>
      hfault (Option.isNone_iff_eq_none.1 hnone)
    rw [List.nil_append, List.nil_append, matchChoice, h]
    simp only [if_neg hsome, Attempt.further_of_le hle]
  | cons expansion between ih =>
    rw [List.cons_append, List.cons_append, matchChoice, matchChoice]
    cases matchSequence step expansion p with
    | none => rfl
    | some tried =>
      have hbetter : attempt.place.offset ≤ (tried.further (some best)).place.offset :=
        hle.trans (Attempt.le_further_best best tried)
      simp only [ih hbetter]

/-- **A choice without the dead expansion gives the same**, whether it matches, fails or does not
end. -/
theorem matchChoice_dead {earlier later : List σ} (hextends : earlier <+: later) (p : Place)
    (before between after : List (List σ)) (best : Option Attempt) :
    matchChoice step p best (before ++ earlier :: (between ++ later :: after)) =
      matchChoice step p best (before ++ earlier :: (between ++ after)) := by
  induction before generalizing best with
  | nil =>
    rw [List.nil_append, List.nil_append, matchChoice, matchChoice]
    cases hearlier : matchSequence step earlier p with
    | none => rfl
    | some attempt =>
      by_cases hfault : attempt.fault = none
      · -- If the earlier expansion matches, the later one is not tried at all.
        simp only [hfault, Option.isNone_none, if_true]
      · obtain ⟨more, rfl⟩ := hextends
        have hlater := matchSequence_append_of_fault more hearlier hfault
        have hle := Attempt.le_further best attempt
        simp only [matchChoice_of_no_further hlater hfault between after hle]
  | cons expansion before ih =>
    rw [List.cons_append, List.cons_append, matchChoice, matchChoice]
    cases matchSequence step expansion p with
    | none => rfl
    | some tried => simp only [ih]

end

/-- Deleting the later one of two expansions, with all that stands around them. -/
theorem exists_eraseIdx_split {α : Type} {list : List α} {i j : Nat} {first second : α}
    (hlt : i < j) (hi : list[i]? = some first) (hj : list[j]? = some second) :
    ∃ before between after, list = before ++ first :: (between ++ second :: after) ∧
      list.eraseIdx j = before ++ first :: (between ++ after) := by
  induction list generalizing i j with
  | nil => cases hi
  | cons head tail ih =>
    -- The later place is not the head, so it is one of the tail.
    obtain ⟨j, rfl⟩ : ∃ k, j = k + 1 := ⟨j - 1, by omega⟩
    rw [List.getElem?_cons_succ] at hj
    cases i with
    | zero =>
      obtain rfl : head = first := Option.some.inj hi
      refine ⟨[], tail.take j, tail.drop (j + 1), ?_, ?_⟩
      · have hsplit := List.take_append_drop j tail
        rw [List.drop_eq_getElem?_toList_append, hj] at hsplit
        rw [List.nil_append]
        exact congrArg (head :: ·) hsplit.symm
      · rw [List.eraseIdx_cons_succ, List.eraseIdx_eq_take_drop_succ, List.nil_append]
    | succ i =>
      rw [List.getElem?_cons_succ] at hi
      obtain ⟨before, between, after, htail, herase⟩ := ih (Nat.lt_of_succ_lt_succ hlt) hi hj
      refine ⟨head :: before, between, after, ?_, ?_⟩
      · rw [List.cons_append, ← htail]
      · rw [List.eraseIdx_cons_succ, herase, List.cons_append]

namespace Grammar

section

variable [PatternEngine] {grammar : Grammar}

/-! ### Grammars -/

/-- **Without the dead expansion every symbol is matched as with it**, to every depth. -/
theorem matchName_withoutDead {shorter : Grammar} {name : String}
    {before between after : List Expansion} {earlier later : Expansion}
    (hget : grammar.rules.get? name =
      some (before ++ earlier :: (between ++ later :: after)))
    (hextends : earlier.symbols <+: later.symbols)
    (hrules : shorter.rules =
      grammar.rules.withExpansions name (before ++ earlier :: (between ++ after)))
    (hcomments : shorter.comments = grammar.comments) (bound : Nat) :
    shorter.matchName bound = grammar.matchName bound := by
  -- The induction is on the bound, for all symbols at once: the nonterminal may come up anywhere.
  induction bound with
  | zero => rfl
  | succ bound ih =>
    funext symbol p
    rw [matchName, matchName, hcomments, hrules, ih]
    cases skip grammar.comments p with
    | error opening => rfl
    | ok q =>
      by_cases hsymbol : symbol = name
      · rw [hsymbol, Rules.get?_withExpansions_self hget, hget]
        simp only [List.map_append, List.map_cons]
        rw [matchChoice_dead hextends]
      · rw [Rules.get?_withExpansions_of_ne hsymbol]

/-- **An expansion that extends an earlier one is dead.** Let an expansion of a nonterminal begin
with all the symbols of an earlier one; they may be the same, and the earlier one may be empty. With
the later one deleted the rules have a grammar again, and every grammar of them with the same
comments parses every source as every symbol as before: to the same tree, with or without a fault,
or to none. -/
theorem extending_expansion_is_dead {name : String} {expansions : List Expansion} {i j : Nat}
    {earlier later : Expansion} (hget : grammar.rules.get? name = some expansions) (hlt : i < j)
    (hearlier : expansions[i]? = some earlier) (hlater : expansions[j]? = some later)
    (hextends : earlier.symbols <+: later.symbols) :
    (∃ shorter, build (grammar.rules.withExpansions name (expansions.eraseIdx j)) grammar.start
      grammar.comments = .ok shorter) ∧
    ∀ start shorter, build (grammar.rules.withExpansions name (expansions.eraseIdx j)) start
      grammar.comments = .ok shorter →
        ∀ source symbol, shorter.parse source symbol = grammar.parse source symbol := by
  refine ⟨exists_build_withExpansions hget fun expansion => List.mem_of_mem_eraseIdx, ?_⟩
  intro start shorter hbuild source symbol
  obtain ⟨hrules, -, hcomments⟩ := build_eq_ok_iff.1 hbuild
  obtain ⟨before, between, after, rfl, herase⟩ := exists_eraseIdx_split hlt hearlier hlater
  rw [herase] at hrules
  have hmatch := matchName_withoutDead hget hextends hrules hcomments
  refine parse_eq_of_matches hcomments ?_ fun root place => ?_
  · rw [isNonterminal, isNonterminal, hrules, Rules.contains_withExpansions]
  · simp only [Matches, hmatch]

end

/-! ### Sums in the wrong order -/

/-- The expansions of a sum, the shorter one first, so that the longer one is dead. -/
def sumExpansions : List Expansion := [⟨["Term"]⟩, ⟨["Term", "-", "Sum"]⟩]

/-- The rules of sums. -/
def sumRules : Rules where
  entries := [("Sum", sumExpansions), ("Term", [⟨["a"]⟩, ⟨["o", "Sum", "c"]⟩])]
  ordered := by decide
  named := by simp

/-- **Sums** of terms, which may be sums in brackets, without comments. -/
def sums : Grammar where
  rules := sumRules
  start := some "Sum"
  comments := []
  table := (Table.ofRules sumRules).toOption.getD ⟨#[]⟩
  start_mem := by
    intro symbol h
    rw [← Option.some.inj h]
    rfl
  table_eq := by cbv

/-- The tree of a sum in brackets: behind the first term a closing bracket is expected. -/
def brokenSum : Tree :=
  ⟨"Sum", 0, 3, [⟨"Term", 0, 3, [⟨"o", 0, 1, [], none⟩,
    ⟨"Sum", 1, 2, [⟨"Term", 1, 2, [⟨"a", 1, 2, [], none⟩], none⟩], none⟩,
    .failed "c" 3 .noMatch], some .noMatch⟩], some .noMatch⟩

theorem extending_expansion_is_dead_sums :
    sums.rules.get? "Sum" = some sumExpansions ∧
      sumExpansions[0]? = some ⟨["Term"]⟩ ∧ sumExpansions[1]? = some ⟨["Term", "-", "Sum"]⟩ ∧
      ["Term"] <+: ["Term", "-", "Sum"] ∧ sums.parse "oa - ac" "Sum" = .ok brokenSum ∧
      ∃ shorter, build (sumRules.withExpansions "Sum" [⟨["Term"]⟩]) (some "Sum") [] = .ok shorter ∧
        shorter.parse "oa - ac" "Sum" = .ok brokenSum := by
  have hget : sums.rules.get? "Sum" = some sumExpansions := rfl
  have hextends : ["Term"] <+: ["Term", "-", "Sum"] := ⟨["-", "Sum"], rfl⟩
  have hparse : sums.parse "oa - ac" "Sum" = .ok brokenSum := by cbv
  obtain ⟨⟨shorter, hbuild⟩, hsame⟩ :=
    extending_expansion_is_dead hget Nat.zero_lt_one rfl rfl hextends
  refine ⟨hget, rfl, rfl, hextends, hparse, shorter, hbuild, ?_⟩
  rw [hsame _ shorter hbuild, hparse]

end Grammar

end OrderedChoice
