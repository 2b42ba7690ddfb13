import OrderedChoice.Unicode.Packed
import OrderedChoice.Unicode.CaseFold

/-!
# Case variants

A set that is matched without regard to case is closed under case variants first: with each
member it holds every character that simple case folding maps to the same character.
-/

namespace OrderedChoice.Unicode

/-- **Run of case variants**: the characters `first`, `first + stride`, … , `count` in all, each
with its variant at the same distance above or below it. -/
structure FoldRun where
  /-- The first code point of the run. -/
  first : Nat
  /-- How many code points the run has. -/
  count : Nat
  /-- The distance between two code points of the run. -/
  stride : Nat
  /-- The distance from a code point to its variant. -/
  distance : Nat
  /-- Whether the variants lie below. -/
  below : Bool

/-- Reads runs from unpacked numbers, `first` being where the run before begins. -/
def readFoldRuns (first : Nat) : List Nat → List FoldRun
  | step :: shape :: shift :: rest =>
    ⟨first + step, shape / 2 + 1, shape % 2 + 1, shift / 2, shift % 2 == 1⟩ ::
      readFoldRuns (first + step) rest
  | _ => []

/-- All runs of case variants. -/
def foldTable : List FoldRun := readFoldRuns 0 (unpackLines foldRuns)

/-- The variant of a code point of the run. -/
def FoldRun.variant (run : FoldRun) (code : Nat) : Nat :=
  if run.below then code - run.distance else code + run.distance

/-- The variants of those members of a set that lie on the run. -/
def FoldRun.variantsOf (run : FoldRun) (set : CharSet) : CharSet :=
  let members := (List.range run.count).map (run.first + · * run.stride)
  let hits := members.filter (CharSet.inRanges · set.ranges)
  .unions (hits.map fun code => ⟨[⟨run.variant code, run.variant code⟩]⟩)

/-- **Closure under case variants.** -/
def withCaseVariants (set : CharSet) : CharSet :=
  set.union (.unions (foldTable.map (·.variantsOf set)))

/-- The set with the other case of its ASCII letters. -/
def withAsciiVariants (set : CharSet) : CharSet :=
  let upper : FoldRun := ⟨0x41, 26, 1, 0x20, false⟩
  let lower : FoldRun := ⟨0x61, 26, 1, 0x20, true⟩
  set.union ((upper.variantsOf set).union (lower.variantsOf set))

end OrderedChoice.Unicode
