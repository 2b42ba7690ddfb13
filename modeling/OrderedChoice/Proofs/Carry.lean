import OrderedChoice.Parse.Engine
import OrderedChoice.Proofs.Walk

/-!
# Carrying a run over

Two runs of the engine can do the same thing under other names and further on in a text. This
module says what becomes of the pieces of a run when its symbols are renamed and all its places
move by the same number of bytes, and that every part of the engine but the look-up of a symbol
keeps up with it:

* `Tree.carry`, `Place.shift` and `Attempt.carry` are what becomes of nodes, places and attempts.
* `skip_shift`: skipping goes by the text that is left, so it moves along with the places.
* `matchSequence_carry` and `matchChoice_carry`: if single symbols are carried over, so are
  sequences of symbols and choices between them.

Symbols may be of different types in the two runs, so that they can be names in one of them and
numbers in the other.
-/

namespace OrderedChoice

/-! ### Places -/

namespace Place

/-- **The place `n` bytes further on**, with the same text behind it. -/
def shift (n : Nat) (p : Place) : Place := ⟨p.offset + n, p.rest⟩

@[simp] theorem shift_offset (n : Nat) (p : Place) : (p.shift n).offset = p.offset + n := rfl

@[simp] theorem shift_rest (n : Nat) (p : Place) : (p.shift n).rest = p.rest := rfl

@[simp] theorem shift_zero (p : Place) : p.shift 0 = p := rfl

theorem shift_advance (n m : Nat) (p : Place) :
    (p.shift n).advance m = (p.advance m).shift n := by
  rw [advance, advance, shift, shift]
  simp only [Nat.add_right_comm]

theorem skipWhile_shift (f : Char → Bool) (n offset : Nat) (text : List Char) :
    skipWhile f (offset + n) text = (skipWhile f offset text).shift n := by
  induction text generalizing offset with
  | nil => rfl
  | cons c cs ih =>
    rw [skipWhile, skipWhile]
    split
    · rw [Nat.add_right_comm, ih]
    · rfl

theorem skipBlanks_shift (n : Nat) (p : Place) :
    (p.shift n).skipBlanks = p.skipBlanks.shift n :=
  skipWhile_shift Text.isBlank n p.offset p.rest

theorem skipText?_shift (mark : List Char) (n : Nat) (p : Place) :
    (p.shift n).skipText? mark = (p.skipText? mark).map (shift n) := by
  rw [skipText?, skipText?, Option.map_map]
  refine congrArg (fun g => Option.map g (Text.dropPrefix? mark p.rest)) (funext fun rest => ?_)
  simp only [Function.comp_apply, shift, Nat.add_right_comm]

theorem findText?_shift (mark : List Char) (n offset : Nat) (text : List Char) :
    findText? mark (offset + n) text = (findText? mark offset text).map (shift n) := by
  induction text generalizing offset with
  | nil => exact skipText?_shift mark n ⟨offset, []⟩
  | cons c cs ih =>
    have hhere := skipText?_shift mark n ⟨offset, c :: cs⟩
    rw [shift] at hhere
    rw [findText?, findText?, hhere]
    cases skipText? mark ⟨offset, c :: cs⟩ with
    | none =>
      simp only [Option.map_none]
      rw [Nat.add_right_comm, ih]
    | some place => rfl

theorem skipLine_shift (n offset : Nat) (text : List Char) :
    skipLine (offset + n) text = (skipLine offset text).shift n := by
  induction text generalizing offset with
  | nil => rfl
  | cons c cs ih =>
    rw [skipLine, skipLine]
    split
    · rw [shift, Nat.add_right_comm]
    · rw [Nat.add_right_comm, ih]

end Place

/-! ### Skipping -/

theorem Comment.skipBody?_shift (comment : Comment) (n : Nat) (body : Place) :
    comment.skipBody? (body.shift n) = (comment.skipBody? body).map (Place.shift n) := by
  rw [skipBody?, skipBody?]
  split
  · exact Place.findText?_shift _ n body.offset body.rest
  · exact congrArg some (Place.skipLine_shift n body.offset body.rest)

theorem opened?_shift (comments : List Comment) (n : Nat) (p : Place) :
    opened? comments (p.shift n) =
      (opened? comments p).map fun found => (found.1, found.2.shift n) := by
  rw [opened?, opened?]
  induction comments with
  | nil => rfl
  | cons comment comments ih =>
    rw [List.findSome?_cons, List.findSome?_cons, Place.skipText?_shift]
    cases p.skipText? comment.opening.toList with
    | none =>
      simp only [Option.map_none]
      exact ih
    | some body => rfl

/-- The outcome of skipping `n` bytes further on. -/
def shiftOutcome (n : Nat) : Except Place Place → Except Place Place
  | .ok q => .ok (q.shift n)
  | .error opening => .error (opening.shift n)

theorem skipRounds_shift (comments : List Comment) (n : Nat) (rounds : List Char) (p : Place) :
    skipRounds comments rounds (p.shift n) = shiftOutcome n (skipRounds comments rounds p) := by
  induction rounds generalizing p with
  | nil => rfl
  | cons c rounds ih =>
    rw [skipRounds, skipRounds, Place.skipBlanks_shift, opened?_shift]
    cases opened? comments p.skipBlanks with
    | none => rfl
    | some found =>
      obtain ⟨comment, body⟩ := found
      simp only [Option.map_some, Comment.skipBody?_shift]
      cases comment.skipBody? body with
      | none => rfl
      | some next => exact ih next

/-- **Skipping goes by the text that is left**: further on in a longer text it has the same
outcome, further on. -/
theorem skip_shift (comments : List Comment) (n : Nat) (p : Place) :
    skip comments (p.shift n) = shiftOutcome n (skip comments p) :=
  skipRounds_shift comments n p.rest p

/-! ### Nodes -/

/-- **The name of a node under a renaming.** Text that is left over has no name and gets none. -/
def relabel (r : String → String) (name : String) : String := if name = "" then "" else r name

@[simp] theorem relabel_empty (r : String → String) : relabel r "" = "" := rfl

@[simp] theorem relabel_id (name : String) : relabel id name = name := by
  rw [relabel]
  split
  · next h => exact h.symm
  · rfl

/-- The symbol that a fault names is renamed. -/
def Fault.rename (r : String → String) : Fault → Fault
  | .noMatch => .noMatch
  | .unterminatedComment => .unterminatedComment
  | .unparsableAfter symbol => .unparsableAfter (r symbol)

@[simp] theorem Fault.rename_id (fault : Fault) : fault.rename id = fault := by
  cases fault <;> rfl

namespace Tree

mutual

/-- **What becomes of a tree** when symbols are renamed and places move by `n` bytes. -/
def carry (r : String → String) (n : Nat) : Tree → Tree
  | ⟨symbol, start, stop, children, fault⟩ =>
    ⟨relabel r symbol, start + n, stop + n, carryAll r n children, fault.map (Fault.rename r)⟩

/-- What becomes of some trees. -/
def carryAll (r : String → String) (n : Nat) : List Tree → List Tree
  | [] => []
  | tree :: trees => carry r n tree :: carryAll r n trees

end

variable (r : String → String) (n : Nat)

theorem carryAll_eq (trees : List Tree) : carryAll r n trees = trees.map (carry r n) := by
  induction trees with
  | nil => rfl
  | cons tree trees ih => rw [carryAll, ih, List.map_cons]

theorem carry_eq (tree : Tree) :
    tree.carry r n = ⟨relabel r tree.symbol, tree.start + n, tree.stop + n,
      tree.children.map (carry r n), tree.fault.map (Fault.rename r)⟩ := by
  cases tree
  rw [carry, carryAll_eq]

@[simp] theorem carry_fault (tree : Tree) :
    (tree.carry r n).fault = tree.fault.map (Fault.rename r) := by
  rw [carry_eq]

/-- The nodes of a tree are carried over one by one. -/
theorem nodes_carry (tree : Tree) : (tree.carry r n).nodes = tree.nodes.map (carry r n) := by
  induction tree using Tree.induction with
  | node tree ih =>
    have hchildren : (tree.carry r n).children = tree.children.map (carry r n) := by
      rw [carry_eq]
    rw [nodes_eq, nodes_eq tree, List.map_cons, List.map_flatMap, hchildren, List.flatMap_map]
    exact congrArg (tree.carry r n :: ·) (List.flatMap_congr ih)

/-- Without new names and without a move everything stays as it is. -/
theorem carry_id (tree : Tree) : tree.carry id 0 = tree := by
  induction tree using Tree.induction with
  | node tree ih =>
    have hchildren : tree.children.map (carry id 0) = tree.children := by
      refine (List.map_congr_left ih).trans ?_
      exact List.map_id' tree.children
    have hfault : tree.fault.map (Fault.rename id) = tree.fault := by
      rw [funext Fault.rename_id, Option.map_id']
    rw [carry_eq, hchildren, hfault, relabel_id]
    cases tree
    rfl

end Tree

/-! ### Attempts and choices -/

/-- What becomes of an attempt. -/
def Attempt.carry (r : String → String) (n : Nat) (attempt : Attempt) : Attempt :=
  ⟨attempt.children.map (Tree.carry r n), attempt.place.shift n,
    attempt.fault.map (Fault.rename r)⟩

theorem Attempt.carry_id : Attempt.carry id 0 = id := by
  funext attempt
  have hchildren : attempt.children.map (Tree.carry id 0) = attempt.children := by
    rw [funext Tree.carry_id, List.map_id']
  have hfault : attempt.fault.map (Fault.rename id) = attempt.fault := by
    rw [funext Fault.rename_id, Option.map_id']
  rw [Attempt.carry, hchildren, hfault]
  rfl

/-- What becomes of a node and the place where it ends. -/
def carryResult (r : String → String) (n : Nat) (result : Tree × Place) : Tree × Place :=
  (result.1.carry r n, result.2.shift n)

theorem carryResult_id : carryResult id 0 = id := by
  funext result
  rw [carryResult, Tree.carry_id]
  rfl

variable {r : String → String} {n : Nat}

/-- Which of two attempts came further does not depend on where they began. -/
theorem Attempt.carry_further (best : Option Attempt) (attempt : Attempt) :
    (attempt.carry r n).further (best.map (Attempt.carry r n)) =
      (attempt.further best).carry r n := by
  cases best with
  | none => rfl
  | some best =>
    simp only [Option.map_some, Attempt.further, Attempt.carry, Place.shift_offset,
      Nat.add_lt_add_iff_right]
    split <;> rfl

section

variable {σ τ : Type} {f : σ → τ} {step : τ → Place → Option (Tree × Place)}
  {step' : σ → Place → Option (Tree × Place)}

/-- **Symbols that are carried over one by one are carried over one after another.** -/
theorem matchSequence_carry {symbols : List σ}
    (h : ∀ symbol ∈ symbols, ∀ p,
      step (f symbol) (p.shift n) = (step' symbol p).map (carryResult r n)) (p : Place) :
    matchSequence step (symbols.map f) (p.shift n) =
      (matchSequence step' symbols p).map (Attempt.carry r n) := by
  induction symbols generalizing p with
  | nil => rfl
  | cons symbol symbols ih =>
    have htail := ih fun s hs => h s (List.mem_cons_of_mem _ hs)
    rw [List.map_cons, matchSequence, matchSequence, h symbol List.mem_cons_self p]
    cases step' symbol p with
    | none => rfl
    | some result =>
      obtain ⟨child, next⟩ := result
      simp only [Option.map_some, carryResult, Tree.carry_fault]
      cases child.fault with
      | some fault => rfl
      | none =>
        -- The first symbol matches in both runs, and the rest begins where it has ended.
        simp only [Option.map_none, htail next]
        cases matchSequence step' symbols next <;> rfl

/-- **Choices are carried over** if single symbols are: the same expansion is chosen. -/
theorem matchChoice_carry {expansions : List (List σ)} (p : Place) (best : Option Attempt)
    (h : ∀ symbols ∈ expansions, ∀ symbol ∈ symbols, ∀ p,
      step (f symbol) (p.shift n) = (step' symbol p).map (carryResult r n)) :
    matchChoice step (p.shift n) (best.map (Attempt.carry r n)) (expansions.map (·.map f)) =
      (matchChoice step' p best expansions).map (Option.map (Attempt.carry r n)) := by
  induction expansions generalizing best with
  | nil => rfl
  | cons symbols expansions ih =>
    have htail := fun b => ih b fun s hs => h s (List.mem_cons_of_mem _ hs)
    rw [List.map_cons, matchChoice, matchChoice, matchSequence_carry (h symbols List.mem_cons_self)]
    cases matchSequence step' symbols p with
    | none => rfl
    | some attempt =>
      -- An attempt has a fault in both runs or in none, so both stop here or both go on.
      have hfault : (attempt.carry r n).fault.isNone = attempt.fault.isNone :=
        Option.isNone_map
      simp only [Option.map_some, hfault]
      split
      · rfl
      · rw [Attempt.carry_further, ← Option.map_some, htail]

end

/-- The node of a nonterminal is carried over. -/
theorem nodeOf_carry (name : String) (p : Place) (chosen : Option Attempt) :
    nodeOf (relabel r name) (p.shift n) (chosen.map (Attempt.carry r n)) =
      carryResult r n (nodeOf name p chosen) := by
  cases chosen with
  | none =>
    rw [Option.map_none, nodeOf, nodeOf, carryResult, Tree.failed, Tree.failed, Tree.carry_eq]
    rfl
  | some attempt =>
    rw [Option.map_some, nodeOf, nodeOf, carryResult, Tree.carry_eq]
    rfl

/-- The node of a terminal is carried over, because a pattern goes by the text that is left. -/
theorem matchTerminal_carry [PatternEngine] (name : String) (pattern : Pattern) (p : Place) :
    matchTerminal (relabel r name) pattern (p.shift n) =
      carryResult r n (matchTerminal name pattern p) := by
  rw [matchTerminal, matchTerminal, Place.shift_rest]
  cases pattern.matchLength? p.rest with
  | none =>
    simp only [carryResult, Tree.failed, Tree.carry_eq]
    rfl
  | some m =>
    simp only [carryResult, Tree.carry_eq, Place.shift_advance]
    rfl

end OrderedChoice
