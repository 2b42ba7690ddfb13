import OrderedChoice.Pattern.Size.Tally

/-!
# The machine of a choice between texts

Texts that begin with the same bytes share the states that read these bytes. The order of
preference is kept: where a text ends, the branches from there on that were added before it stay
apart from those that are added after it.
-/

namespace OrderedChoice.Pattern

/-- **Tree of texts.** At each place, the branches are in layers; between two layers a text ends. -/
inductive WordTree where
  /-- The layers that are closed, the last one first, and the one that grows. -/
  | node (closed : List (List (UInt8 × WordTree))) (growing : List (UInt8 × WordTree))

namespace WordTree

/-- The tree with no text. -/
def empty : WordTree := .node [] []

/-- Whether nothing goes on from a place. -/
def isLeaf : WordTree → Bool
  | .node closed layer => layer.isEmpty && closed.all (·.isEmpty)

/-- Applies a function to the branch at a byte, which is added if there is none. -/
def updateBranch (byte : UInt8) (f : WordTree → WordTree) :
    List (UInt8 × WordTree) → List (UInt8 × WordTree)
  | [] => [(byte, f empty)]
  | (b, tree) :: rest =>
    if b = byte then (b, f tree) :: rest else (b, tree) :: updateBranch byte f rest

/-- **Adds a text.** Where it ends, the growing layer is closed, unless the same text ends there and
nothing goes on. -/
def insert : List UInt8 → WordTree → WordTree
  | [], .node closed layer =>
    if !closed.isEmpty && layer.isEmpty && closed.all (·.isEmpty) then .node closed layer
    else .node (layer :: closed) []
  | byte :: bytes, .node closed layer => .node closed (updateBranch byte (insert bytes) layer)

mutual

/-- **The states of a place and of all places behind it.** A layer is one state if it has
branches, and tells them apart if there are several; one more state leads to the layers and to the
ends between them. A place where nothing goes on has no state. -/
def grow : WordTree → Tally → Tally
  | .node closed layer, tally =>
    let layers := (layer :: closed).countP fun branches => !branches.isEmpty
    (growLayers closed (growLayer layer 0 tally)).add 1 (4 * (layers + closed.length))

/-- The states of some layers. -/
def growLayers : List (List (UInt8 × WordTree)) → Tally → Tally
  | [], tally => tally
  | layer :: layers, tally => growLayers layers (growLayer layer 0 tally)

/-- The states of a layer, `count` of its branches being done. -/
def growLayer : List (UInt8 × WordTree) → Nat → Tally → Tally
  | [], count, tally =>
    if count = 0 then tally else tally.add 1 (if count = 1 then 0 else 8 * count)
  | branch :: rest, count, tally => growLayer rest (count + 1) (growBranch branch tally)

/-- The states behind a branch. -/
def growBranch : UInt8 × WordTree → Tally → Tally
  | (_, tree), tally => if tree.isLeaf then tally else grow tree tally

end

end WordTree

/-- **The machine of a choice between texts**, given by their bytes in the order of reading. -/
def growWords (words : List (List UInt8)) (tally : Tally) : Tally :=
  (words.foldl (fun tree word => tree.insert word) WordTree.empty).grow (tally.add 1 0)

end OrderedChoice.Pattern
