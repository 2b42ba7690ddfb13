import OrderedChoice.Proofs.Readability

/-!
# The JSON form of a tree is a pretty form

The JSON form of a tree is written part by part. What it is as a whole is said here in two steps,
without trees first: every value has a pretty form, with its items or members on lines of their own
and two blanks for each level, and a tree stands for an object. The JSON form is the pretty form of
that object.

* `Written.pretty` is the pretty form of a value, and `Json.escaped` the way in which characters are
  written in strings.
* `Tree.object` is the object that a tree stands for: a member for everything that a node has, and
  one for its fault only if there is one.
* `Tree.toList_toJson`: the JSON form of a tree is the pretty form of its object.
-/

namespace OrderedChoice

/-! ### Values and their pretty form -/

/-- **Value to be written.** -/
inductive Written where
  | number (n : Nat)
  | text (value : String)
  | array (items : List Written)
  | object (members : List (String × Written))

namespace Json

/-- **Short escapes**: what stands behind the backslash for a character. -/
def shortEscapes : List (Char × Char) :=
  [('"', '"'), ('\\', '\\'), ('\x08', 'b'), ('\x0C', 'f'), ('\n', 'n'), ('\r', 'r'), ('\t', 't')]

/-- **A character in a string**: it has a short escape, is written by its number as a control
character, or stands for itself. -/
def escaped (c : Char) : List Char :=
  match shortEscapes.lookup c with
  | some letter => ['\\', letter]
  | none =>
    if c.toNat < 0x20 then
      ['\\', 'u', '0', '0'] ++ [c.toNat / 16, c.toNat % 16].map Nat.digitChar
    else [c]

/-- **A string between its quotes.** -/
def quoted (text : String) : List Char := ['"'] ++ text.toList.flatMap escaped ++ ['"']

/-- The beginning of a line at a level. -/
def newLine (level : Nat) : List Char := '\n' :: List.replicate (2 * level) ' '

/-- **Parts between brackets**: each on a line of its own, one level deeper, with a comma behind all
but the last, and the closing bracket on a line of its own. Without parts there is nothing between
the brackets. -/
def bracketed (level : Nat) (opening closing : Char) (parts : List (List Char)) : List Char :=
  if parts.isEmpty then [opening, closing]
  else
    [opening] ++ [','].intercalate (parts.map (newLine (level + 1) ++ ·)) ++ newLine level ++
      [closing]

end Json

namespace Written

mutual

/-- **Pretty form of a value** that begins in a line at a level. -/
def pretty (level : Nat) : Written → List Char
  | .number n => Nat.toDigits 10 n
  | .text value => Json.quoted value
  | .array items => Json.bracketed level '[' ']' (prettyItems (level + 1) items)
  | .object members => Json.bracketed level '{' '}' (prettyMembers (level + 1) members)

/-- The pretty forms of the items of an array. -/
def prettyItems (level : Nat) : List Written → List (List Char)
  | [] => []
  | item :: items => pretty level item :: prettyItems level items

/-- The pretty forms of the members of an object, each with its name in front. -/
def prettyMembers (level : Nat) : List (String × Written) → List (List Char)
  | [] => []
  | (name, value) :: members =>
    (Json.quoted name ++ [':', ' '] ++ pretty level value) :: prettyMembers level members

end

theorem prettyItems_eq (level : Nat) (items : List Written) :
    prettyItems level items = items.map (pretty level) := by
  induction items with
  | nil => rfl
  | cons item items ih => rw [prettyItems, ih, List.map_cons]

end Written

/-! ### The parts as they are written -/

namespace Json

/-- **A character is written as the rule says.** -/
theorem escapeChar_eq (c : Char) : escapeChar c = escaped c := by
  unfold escapeChar
  split
  case h_8 hquote hbackslash hbackspace hformFeed hlineFeed hreturn htab =>
    -- None of the seven characters has been met, so there is no short escape.
    have hnone : shortEscapes.lookup c = none := by
      simp only [shortEscapes, List.lookup_cons, beq_false_of_ne hquote,
        beq_false_of_ne hbackslash, beq_false_of_ne hbackspace, beq_false_of_ne hformFeed,
        beq_false_of_ne hlineFeed, beq_false_of_ne hreturn, beq_false_of_ne htab, List.lookup_nil]
    rw [escaped, hnone]
    rfl
  all_goals rfl

theorem quote_eq (text : String) : quote text.toList = quoted text := by
  rw [quote, quoted, funext escapeChar_eq]
  rfl

/-- **Parts between brackets**, written from the first one on. -/
theorem bracketed_cons (level : Nat) (opening closing : Char) (part : List Char)
    (parts : List (List Char)) :
    bracketed level opening closing (part :: parts) =
      opening :: (newLine (level + 1) ++ part) ++
        (parts.flatMap fun part => ',' :: (newLine (level + 1) ++ part)) ++
        newLine level ++ [closing] := by
  -- Joining with commas puts one in front of each part but the first.
  have hjoin : ∀ first : List Char,
      [','].intercalate (first :: parts.map (newLine (level + 1) ++ ·)) =
        first ++ parts.flatMap fun part => ',' :: (newLine (level + 1) ++ part) := by
    induction parts with
    | nil =>
      intro first
      simp
    | cons next parts ih =>
      intro first
      rw [List.map_cons, List.intercalate_cons_cons, ih, List.flatMap_cons]
      simp only [List.append_assoc, List.cons_append, List.nil_append]
  rw [bracketed, if_neg (by simp), List.map_cons, hjoin]
  simp only [List.append_assoc, List.cons_append, List.nil_append]

end Json

/-! ### Trees -/

namespace Tree

mutual

/-- **Object that a tree stands for.** -/
def object (source : String) : Tree → Written
  | ⟨symbol, start, stop, children, fault⟩ =>
    .object ([("symbol", .text symbol), ("start", .number start), ("end", .number stop),
      ("content", .text (String.ofList (Text.slice start stop source.toList)))] ++
      (fault.map fun fault => ("error", .text fault.text)).toList ++
      [("children", .array (objects source children))])

/-- The objects that some trees stand for. -/
def objects (source : String) : List Tree → List Written
  | [] => []
  | tree :: trees => object source tree :: objects source trees

end

theorem objects_eq (source : String) (trees : List Tree) :
    objects source trees = trees.map (object source) := by
  induction trees with
  | nil => rfl
  | cons tree trees ih => rw [objects, ih, List.map_cons]

theorem object_eq (source : String) (tree : Tree) :
    tree.object source =
      .object ([("symbol", .text tree.symbol), ("start", .number tree.start),
        ("end", .number tree.stop), ("content", .text (tree.content source))] ++
        (tree.fault.map fun fault => ("error", .text fault.text)).toList ++
        [("children", .array (tree.children.map (object source)))]) := by
  cases tree
  rw [object, objects_eq]
  rfl

theorem toList_newLine (level : Nat) :
    '\n' :: (spaces (2 * level)).toList = Json.newLine level := by
  rw [spaces, String.toList_ofList, Json.newLine]

/-- The names of members need no escapes. -/
theorem lead_eq (level : Nat) {name : String} (h : Json.quoted name = '"' :: name.toList ++ ['"']) :
    lead level name = Json.newLine level ++ (Json.quoted name ++ [':', ' ']) := by
  rw [lead, toList_newLine, h]
  simp only [List.append_assoc, List.cons_append, List.nil_append]

theorem textMember_eq (level : Nat) {name : String} (text : String)
    (h : Json.quoted name = '"' :: name.toList ++ ['"']) :
    textMember level name text =
      Json.newLine level ++ (Json.quoted name ++ [':', ' '] ++ (Written.text text).pretty level) ++
        [','] := by
  rw [textMember, lead_eq level h, jsonString, String.toList_ofList, Json.quote_eq, Written.pretty]
  simp only [List.append_assoc]

theorem numberMember_eq (level : Nat) {name : String} (n : Nat)
    (h : Json.quoted name = '"' :: name.toList ++ ['"']) :
    numberMember level name n =
      Json.newLine level ++ (Json.quoted name ++ [':', ' '] ++ (Written.number n).pretty level) ++
        [','] := by
  rw [numberMember, lead_eq level h, Text.decimal, String.toList_ofList, Written.pretty]
  simp only [List.append_assoc]

/-- **A list of nodes is written as an array**, if the nodes are written as their objects. -/
theorem toList_toJsonList (source : String) (level : Nat) {trees : List Tree}
    (h : ∀ tree ∈ trees, (toJsonAt source (level + 1 + 1) tree).toList =
      (tree.object source).pretty (level + 1)) :
    '[' :: (toJsonList source (level + 1) trees).toList =
      (Written.array (trees.map (object source))).pretty level := by
  -- Behind the first item every further one has its comma in front, up to the closing bracket.
  have hrest : ∀ trees : List Tree,
      (∀ tree ∈ trees, (toJsonAt source (level + 1 + 1) tree).toList =
        (tree.object source).pretty (level + 1)) →
      (toJsonRest source (level + 1) trees).toList =
        ((trees.map fun tree => (tree.object source).pretty (level + 1)).flatMap fun part =>
          ',' :: (Json.newLine (level + 1) ++ part)) ++ Json.newLine level ++ [']'] := by
    intro trees h
    induction trees with
    | nil =>
      rw [toList_toJsonRest_nil, Nat.add_sub_cancel, ← List.cons_append, toList_newLine]
      rfl
    | cons tree trees ih =>
      rw [List.forall_mem_cons] at h
      rw [toList_toJsonRest_cons, h.1, ih h.2, ← List.cons_append, toList_newLine, List.map_cons,
        List.flatMap_cons]
      simp only [List.append_assoc, List.cons_append]
  rw [Written.pretty, Written.prettyItems_eq, List.map_map]
  cases trees with
  | nil => rw [toList_toJsonList_nil]; rfl
  | cons tree trees =>
    rw [List.forall_mem_cons] at h
    rw [toList_toJsonList_cons, h.1, hrest trees h.2, ← List.cons_append, toList_newLine,
      List.map_cons, Json.bracketed_cons]
    simp only [List.append_assoc, List.cons_append, Function.comp_def]

/-- **A node is written as its object.** -/
theorem toList_toJsonAt_eq_pretty (source : String) (level : Nat) (tree : Tree) :
    (toJsonAt source (level + 1) tree).toList = (tree.object source).pretty level := by
  induction tree using Tree.induction generalizing level with
  | node tree ih =>
    have hchildren :=
      toList_toJsonList source (level + 1) fun child hchild => ih child hchild (level + 2)
    have hclosing : closing (level + 1) = Json.newLine level ++ ['}'] := by
      rw [closing, Nat.add_sub_cancel, toList_newLine]
    rw [toList_toJsonAt, object_eq, Written.pretty, textMember_eq _ _ (by decide),
      numberMember_eq _ _ (by decide), numberMember_eq _ _ (by decide),
      textMember_eq _ _ (by decide), hclosing]
    -- On both sides the members stand one after another, the one for the fault if there is one. The
    -- comma that is written behind a member is the one in front of the next.
    cases tree.fault with
    | none =>
      rw [faultAndLead, lead_eq _ (by decide)]
      simp only [Option.map_none, Option.toList_none, List.append_nil, List.cons_append,
        List.nil_append, Written.prettyMembers, Json.bracketed_cons]
      rw [← hchildren]
      simp [faultMember]
    | some fault =>
      rw [faultAndLead_some, textMember_eq _ _ (by decide), lead_eq _ (by decide)]
      simp only [Option.map_some, Option.toList_some, List.cons_append,
        List.nil_append, Written.prettyMembers, Json.bracketed_cons]
      rw [← hchildren]
      simp

/-- **The JSON form of a tree is the pretty form of its object**, with a line feed at its end. -/
theorem toList_toJson (source : String) (tree : Tree) :
    (tree.toJson source).toList = (tree.object source).pretty 0 ++ ['\n'] := by
  rw [toJson, String.toList_append, toList_toJsonAt_eq_pretty source 0]
  rfl

end Tree

end OrderedChoice
