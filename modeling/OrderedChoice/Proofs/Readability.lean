import Mathlib.Data.List.Basic
import OrderedChoice.Json.Reader
import OrderedChoice.Proofs.Walk
import OrderedChoice.Tree.Render

/-!
# A tree can be told from its JSON form

The JSON form of a tree contains texts that may look like JSON themselves, a member for the fault
that may be missing, and lists of any length. Still trees with the same form are the same, because
no part of the form can be mistaken for another one: whatever follows a part, it is clear where it
ends and what it stands for (`SelfDelimiting`). For a string this is so because the reader of
strings gives back what was written, for a number because a comma is no digit, for the fault because
the name of its member begins with another letter than the name behind it, and for a list because
the sign in front of an item is never the one in front of the closing bracket.

The trees may be over different sources. So a part does not determine what it was written from, but
only what the form shows: the tree, and the texts that its nodes cover.

* `Json.string?_quote`: a string that has been written is read back.
* `Fault.text_injective`: faults can be told from their texts.
* `Tree.toldApart`: whatever follows the form of a tree, no other tree has that form.
* `Tree.json_determines_tree`: trees with the same JSON form are the same.
-/

namespace OrderedChoice

/-- **A written form ends by itself**: whatever follows it, equal texts come from equal things and
have equal rests. -/
def SelfDelimiting {α : Type} (write : α → List Char) : Prop :=
  ∀ ⦃a b : α⦄ ⦃rest rest' : List Char⦄, write a ++ rest = write b ++ rest' → a = b ∧ rest = rest'

theorem SelfDelimiting.after {α : Type} {write : α → List Char} (h : SelfDelimiting write)
    (front : List Char) : SelfDelimiting fun a => front ++ write a := by
  intro a b rest rest' heq
  simp only [List.append_assoc] at heq
  exact h (List.append_cancel_left heq)

/-! ### Strings -/

namespace Json

/-- **A part of a string stands for a character**, as it is or by the number of a control
character. -/
def Piece.StandsFor (piece : Piece) (c : Char) : Prop :=
  piece = .char c ∨ piece = .unit c.toNat ∧ c.toNat < 0x20

/-- Control characters are no halves of pairs, so each part is taken by itself. -/
theorem textOf?_cons {piece : Piece} {c : Char} (h : piece.StandsFor c) (pieces : List Piece) :
    textOf? (piece :: pieces) = (textOf? pieces).map (c :: ·) := by
  rcases h with rfl | ⟨rfl, hlt⟩
  · rfl
  · have hhigh : isHighUnit c.toNat = false := by
      simp only [isHighUnit, Bool.and_eq_false_iff, decide_eq_false_iff_not]
      omega
    have hlow : isLowUnit c.toNat = false := by
      simp only [isLowUnit, Bool.and_eq_false_iff, decide_eq_false_iff_not]
      omega
    rcases pieces with _ | ⟨_ | low, rest⟩
    all_goals simp [textOf?, hhigh, hlow, Char.ofNat_toNat]

theorem hexNumber?_control {n : Nat} (h : n < 0x20) :
    Text.hexNumber? ['0', '0', Nat.digitChar (n / 16), Nat.digitChar (n % 16)] = some n := by
  revert n
  decide

theorem pieces?_escaped {letter c : Char} (hletter : letter ≠ 'u') (h : escaped? letter = some c)
    (rest : List Char) :
    pieces? ('\\' :: letter :: rest) =
      (pieces? rest).map fun read => (.char c :: read.1, read.2) := by
  rw [pieces?.eq_4 _ _ fun _ _ _ _ _ hu => absurd hu hletter, h]
  cases pieces? rest <;> rfl

/-- **A character that has been written is read back** as a part that stands for it. -/
theorem pieces?_escapeChar (c : Char) : ∃ piece : Piece, piece.StandsFor c ∧ ∀ rest,
    pieces? (escapeChar c ++ rest) =
      (pieces? rest).map fun read => (piece :: read.1, read.2) := by
  unfold escapeChar
  split
  case h_8 hquote hbackslash _ _ _ _ _ =>
    split
    · -- A control character is written by its number.
      next hlt =>
      refine ⟨.unit c.toNat, .inr ⟨rfl, hlt⟩, fun rest => ?_⟩
      change pieces? ('\\' :: 'u' :: '0' :: '0' :: Nat.digitChar (c.toNat / 16) ::
        Nat.digitChar (c.toNat % 16) :: rest) = _
      rw [pieces?, hexNumber?_control hlt]
      cases pieces? rest <;> rfl
    · next hge =>
      refine ⟨.char c, .inl rfl, fun rest => ?_⟩
      have hplain : (decide (c.toNat < 0x20) || decide (c = '\\')) = false := by
        rw [Bool.or_eq_false_iff, decide_eq_false_iff_not, decide_eq_false_iff_not]
        exact ⟨hge, hbackslash⟩
      rw [List.singleton_append, pieces?.eq_5 c rest hquote
        (fun _ _ _ _ _ hc _ => hbackslash hc) (fun _ _ hc _ => hbackslash hc), hplain]
      cases pieces? rest <;> rfl
  all_goals exact ⟨.char _, .inl rfl, pieces?_escaped (by decide) rfl⟩

/-- **A string that has been written is read back.** -/
theorem string?_quote (text rest : List Char) :
    string? (text.flatMap escapeChar ++ '"' :: rest) = some (some (String.ofList text), rest) := by
  obtain ⟨pieces, hpieces, htext⟩ : ∃ pieces,
      pieces? (text.flatMap escapeChar ++ '"' :: rest) = some (pieces, rest) ∧
        textOf? pieces = some text := by
    induction text with
    | nil => exact ⟨[], rfl, rfl⟩
    | cons c cs ih =>
      obtain ⟨pieces, hpieces, htext⟩ := ih
      obtain ⟨piece, hpiece, hread⟩ := pieces?_escapeChar c
      refine ⟨piece :: pieces, ?_, ?_⟩
      · rw [List.flatMap_cons, List.append_assoc, hread, hpieces, Option.map_some]
      · rw [textOf?_cons hpiece, htext, Option.map_some]
  rw [string?, hpieces]
  change some ((textOf? pieces).map String.ofList, rest) = _
  rw [htext, Option.map_some]

theorem quote_selfDelimiting : SelfDelimiting quote := by
  intro text text' rest rest' h
  -- Behind the opening quotes the same text is read.
  have hopen : text.flatMap escapeChar ++ '"' :: rest =
      text'.flatMap escapeChar ++ '"' :: rest' := by
    simpa only [quote, List.cons_append, List.append_assoc, List.nil_append,
      List.cons.injEq, true_and] using h
  have hread := string?_quote text rest
  rw [hopen, string?_quote text' rest'] at hread
  obtain ⟨htext, hrest⟩ := Prod.mk.inj (Option.some.inj hread)
  exact ⟨(String.ofList_injective (Option.some.inj htext)).symm, hrest.symm⟩

end Json

/-! ### Numbers and faults -/

/-- **Numbers can be told from their numerals.** -/
theorem Text.decimal_injective : Function.Injective decimal := by
  intro n n' h
  have hdigits : Nat.toDigits 10 n = Nat.toDigits 10 n' := String.ofList_injective h
  calc
    n = Nat.ofDigitChars 10 (Nat.toDigits 10 n) 0 := Nat.ofDigitChars_ten_toDigits.symm
    _ = Nat.ofDigitChars 10 (Nat.toDigits 10 n') 0 := by rw [hdigits]
    _ = n' := Nat.ofDigitChars_ten_toDigits

/-- **A number ends in front of a comma**, because a comma is no digit. -/
theorem Text.decimal_selfDelimiting : SelfDelimiting fun n => (decimal n).toList ++ [','] := by
  intro n n' rest rest' h
  -- The digits at the front are those of the number.
  have hdigits : ∀ (n : Nat) (rest : List Char),
      ((decimal n).toList ++ [','] ++ rest).takeWhile Char.isDigit = (decimal n).toList := by
    intro n rest
    rw [decimal, String.toList_ofList, List.append_assoc, List.takeWhile_append_of_pos
      fun c hc => Nat.isDigit_of_mem_toDigits (by decide) (by decide) hc]
    exact List.append_nil _
  have hnumeral : (decimal n).toList = (decimal n').toList := by
    rw [← hdigits n rest, ← hdigits n' rest']
    exact congrArg _ h
  have hsame : n = n' := decimal_injective (String.toList_inj.1 hnumeral)
  subst hsame
  exact ⟨rfl, List.append_cancel_left h⟩

/-- **Faults can be told from their texts.** -/
theorem Fault.text_injective : Function.Injective Fault.text := by
  intro fault fault' h
  have h : fault.text.toList = fault'.text.toList := congrArg String.toList h
  cases fault <;> cases fault'
  case unparsableAfter.unparsableAfter symbol symbol' =>
    rw [toList_text_unparsableAfter, toList_text_unparsableAfter] at h
    have hsymbol := List.append_cancel_left (List.append_cancel_right h)
    rw [String.toList_inj.1 hsymbol]
  case noMatch.noMatch => rfl
  case unterminatedComment.unterminatedComment => rfl
  -- The texts of different kinds are different within their first three letters.
  all_goals
    have hletters := congrArg (List.take 3) h
    simp [text_noMatch, text_unterminatedComment, toList_text_unparsableAfter] at hletters

namespace Tree

/-! ### Members -/

/-- What is written in front of the value of a member. -/
def lead (depth : Nat) (name : String) : List Char :=
  '\n' :: (spaces (2 * depth)).toList ++ '"' :: name.toList ++ ['"', ':', ' ']

/-- A member with a text, and the comma behind it. -/
def textMember (depth : Nat) (name text : String) : List Char :=
  lead depth name ++ ((jsonString text).toList ++ [','])

/-- A member with a number, and the comma behind it. -/
def numberMember (depth : Nat) (name : String) (n : Nat) : List Char :=
  lead depth name ++ ((Text.decimal n).toList ++ [','])

/-- The member for a fault, if there is one, and what is written in front of the children. -/
def faultAndLead (depth : Nat) (fault : Option Fault) : List Char :=
  (faultMember depth fault).toList ++ lead depth "children"

/-- What is written behind the children. -/
def closing (depth : Nat) : List Char := '\n' :: (spaces (2 * (depth - 1))).toList ++ ['}']

theorem toList_member (depth : Nat) (name value : String) :
    (member depth name value).toList = lead depth name ++ value.toList := by
  simp [member, lead]

theorem faultAndLead_some (depth : Nat) (fault : Fault) :
    faultAndLead depth (some fault) =
      textMember depth "error" fault.text ++ lead depth "children" := by
  simp [faultAndLead, faultMember, toList_member, textMember]

theorem textMember_selfDelimiting (depth : Nat) (name : String) :
    SelfDelimiting (textMember depth name) := by
  refine SelfDelimiting.after (fun text text' rest rest' h => ?_) _
  simp only [jsonString, String.toList_ofList, List.append_assoc] at h
  obtain ⟨htext, hrest⟩ := Json.quote_selfDelimiting h
  exact ⟨String.toList_inj.1 htext, List.append_cancel_left hrest⟩

theorem numberMember_selfDelimiting (depth : Nat) (name : String) :
    SelfDelimiting (numberMember depth name) :=
  Text.decimal_selfDelimiting.after _

/-- **It is clear whether there is a fault**, because the names of its member and of the one behind
it begin with different letters. -/
theorem faultAndLead_selfDelimiting (depth : Nat) : SelfDelimiting (faultAndLead depth) := by
  -- Behind the same blanks and the same quote the one goes on with an e, the other with a c.
  have hne : ∀ (fault : Fault) (rest rest' : List Char),
      faultAndLead depth (some fault) ++ rest ≠ faultAndLead depth none ++ rest' := by
    intro fault rest rest' h
    simp [faultAndLead, faultMember, toList_member, lead] at h
  intro fault fault' rest rest' h
  cases fault with
  | none =>
    cases fault' with
    | none => exact ⟨rfl, List.append_cancel_left h⟩
    | some fault' => exact absurd h.symm (hne fault' rest' rest)
  | some fault =>
    cases fault' with
    | none => exact absurd h (hne fault rest rest')
    | some fault' =>
      rw [faultAndLead_some, faultAndLead_some, List.append_assoc, List.append_assoc] at h
      obtain ⟨htext, hrest⟩ := textMember_selfDelimiting depth "error" h
      rw [Fault.text_injective htext]
      exact ⟨rfl, List.append_cancel_left hrest⟩

/-! ### Nodes and lists of nodes -/

theorem toList_toJsonAt (source : String) (depth : Nat) (tree : Tree) :
    (toJsonAt source depth tree).toList =
      '{' :: (textMember depth "symbol" tree.symbol ++ (numberMember depth "start" tree.start ++
        (numberMember depth "end" tree.stop ++
          (textMember depth "content" (tree.content source) ++ (faultAndLead depth tree.fault ++
            ('[' :: (toJsonList source (depth + 1) tree.children).toList ++
              closing depth)))))) := by
  cases tree
  unfold toJsonAt
  simp [textMember, numberMember, faultAndLead, closing, toList_member, content]

theorem toList_toJsonList_nil (source : String) (depth : Nat) :
    (toJsonList source depth []).toList = [']'] := by
  unfold toJsonList
  simp

theorem toList_toJsonList_cons (source : String) (depth : Nat) (tree : Tree) (trees : List Tree) :
    (toJsonList source depth (tree :: trees)).toList =
      '\n' :: ((spaces (2 * depth)).toList ++ ((toJsonAt source (depth + 1) tree).toList ++
        (toJsonRest source depth trees).toList)) := by
  rw [toJsonList]
  simp

theorem toList_toJsonRest_nil (source : String) (depth : Nat) :
    (toJsonRest source depth []).toList = '\n' :: ((spaces (2 * (depth - 1))).toList ++ [']']) := by
  unfold toJsonRest
  simp

theorem toList_toJsonRest_cons (source : String) (depth : Nat) (tree : Tree) (trees : List Tree) :
    (toJsonRest source depth (tree :: trees)).toList =
      ',' :: '\n' :: ((spaces (2 * depth)).toList ++ ((toJsonAt source (depth + 1) tree).toList ++
        (toJsonRest source depth trees).toList)) := by
  rw [toJsonRest]
  simp

/-- **The nodes of a tree cover the same texts** in two sources. -/
def SameTexts (source source' : String) (tree : Tree) : Prop :=
  ∀ node ∈ tree.nodes, node.content source = node.content source'

theorem sameTexts_iff {source source' : String} {tree : Tree} :
    tree.SameTexts source source' ↔ tree.content source = tree.content source' ∧
      ∀ child ∈ tree.children, child.SameTexts source source' := by
  rw [SameTexts, nodes_eq, List.forall_mem_cons, List.forall_mem_flatMap]
  rfl

/-- **A tree is told from all others** by its JSON form at a depth, whatever follows the form and
whatever the source of the other tree is. -/
def ToldApart (depth : Nat) (tree : Tree) : Prop :=
  ∀ ⦃source source' : String⦄ ⦃other : Tree⦄ ⦃rest rest' : List Char⦄,
    (toJsonAt source depth tree).toList ++ rest = (toJsonAt source' depth other).toList ++ rest' →
      tree = other ∧ tree.SameTexts source source' ∧ rest = rest'

/-- **Further items end by themselves**: a comma comes before an item, and no comma before the
bracket. -/
theorem toJsonRest_toldApart {source source' : String} {depth : Nat} {trees : List Tree}
    (htrees : ∀ tree ∈ trees, ToldApart (depth + 1) tree) {others : List Tree}
    {rest rest' : List Char}
    (h : (toJsonRest source depth trees).toList ++ rest =
      (toJsonRest source' depth others).toList ++ rest') :
    trees = others ∧ (∀ tree ∈ trees, tree.SameTexts source source') ∧ rest = rest' := by
  induction trees generalizing others with
  | nil =>
    cases others with
    | nil =>
      rw [toList_toJsonRest_nil, toList_toJsonRest_nil] at h
      exact ⟨rfl, nofun, List.append_cancel_left h⟩
    | cons other others =>
      rw [toList_toJsonRest_nil, toList_toJsonRest_cons] at h
      exact absurd (List.cons.inj h).1 (by decide)
  | cons tree trees ih =>
    cases others with
    | nil =>
      rw [toList_toJsonRest_nil, toList_toJsonRest_cons] at h
      exact absurd (List.cons.inj h).1 (by decide)
    | cons other others =>
      simp only [toList_toJsonRest_cons, List.cons_append, List.append_assoc, List.cons.injEq,
        true_and, List.append_cancel_left_eq] at h
      obtain ⟨htree, htexts, h⟩ := htrees tree List.mem_cons_self h
      obtain ⟨htrees', htexts', hrest⟩ :=
        ih (fun tree htree => htrees tree (List.mem_cons_of_mem _ htree)) h
      refine ⟨by rw [htree, htrees'], ?_, hrest⟩
      rw [List.forall_mem_cons]
      exact ⟨htexts, htexts'⟩

/-- **A list of nodes ends by itself**: an item begins on a line of its own, and the bracket of the
empty list does not. -/
theorem toJsonList_toldApart {source source' : String} {depth : Nat} {trees : List Tree}
    (htrees : ∀ tree ∈ trees, ToldApart (depth + 1) tree) {others : List Tree}
    {rest rest' : List Char}
    (h : (toJsonList source depth trees).toList ++ rest =
      (toJsonList source' depth others).toList ++ rest') :
    trees = others ∧ (∀ tree ∈ trees, tree.SameTexts source source') ∧ rest = rest' := by
  cases trees with
  | nil =>
    cases others with
    | nil =>
      rw [toList_toJsonList_nil, toList_toJsonList_nil] at h
      exact ⟨rfl, nofun, List.append_cancel_left h⟩
    | cons other others =>
      rw [toList_toJsonList_nil, toList_toJsonList_cons] at h
      exact absurd (List.cons.inj h).1 (by decide)
  | cons tree trees =>
    cases others with
    | nil =>
      rw [toList_toJsonList_nil, toList_toJsonList_cons] at h
      exact absurd (List.cons.inj h).1 (by decide)
    | cons other others =>
      simp only [toList_toJsonList_cons, List.cons_append, List.append_assoc, List.cons.injEq,
        true_and, List.append_cancel_left_eq] at h
      rw [List.forall_mem_cons] at htrees ⊢
      obtain ⟨htree, htexts, h⟩ := htrees.1 h
      obtain ⟨htrees', htexts', hrest⟩ := toJsonRest_toldApart htrees.2 h
      exact ⟨by rw [htree, htrees'], ⟨htexts, htexts'⟩, hrest⟩

/-- **Every tree is told from all others** by its JSON form. -/
theorem toldApart (depth : Nat) (tree : Tree) : ToldApart depth tree := by
  induction tree using Tree.induction generalizing depth with
  | node tree ih =>
    intro source source' other rest rest' h
    rw [toList_toJsonAt, toList_toJsonAt] at h
    simp only [List.cons_append, List.append_assoc, List.cons.injEq, true_and] at h
    -- The members are read off one after the other.
    obtain ⟨hsymbol, h⟩ := textMember_selfDelimiting depth "symbol" h
    obtain ⟨hstart, h⟩ := numberMember_selfDelimiting depth "start" h
    obtain ⟨hstop, h⟩ := numberMember_selfDelimiting depth "end" h
    obtain ⟨hcontent, h⟩ := textMember_selfDelimiting depth "content" h
    obtain ⟨hfault, h⟩ := faultAndLead_selfDelimiting depth h
    obtain ⟨hchildren, htexts, h⟩ :=
      toJsonList_toldApart (fun child hchild => ih child hchild (depth + 1 + 1)) (List.cons.inj h).2
    have hsame : tree = other := by
      cases tree
      cases other
      rw [Tree.mk.injEq]
      exact ⟨hsymbol, hstart, hstop, hchildren, hfault⟩
    rw [← hsame] at hcontent
    exact ⟨hsame, sameTexts_iff.2 ⟨hcontent, htexts⟩, List.append_cancel_left h⟩

/-- **The JSON form determines the tree**: trees with the same form are the same, and every node of
the one covers the same text in its source as in the source of the other. Nothing is asked of the
offsets, the names or the texts. -/
theorem json_determines_tree {source source' : String} {tree other : Tree}
    (h : tree.toJson source = other.toJson source') :
    tree = other ∧ ∀ node ∈ tree.nodes, node.content source = node.content source' := by
  have h : (toJsonAt source 1 tree).toList ++ "\n".toList =
      (toJsonAt source' 1 other).toList ++ "\n".toList := by
    rw [← String.toList_append, ← String.toList_append]
    exact congrArg String.toList h
  obtain ⟨hsame, htexts, -⟩ := toldApart 1 tree h
  exact ⟨hsame, htexts⟩

/-- A tree with names, texts and a fault that need escapes. -/
def thorny : Tree :=
  ⟨"S", 0, 2, [⟨"\"", 0, 1, [], some (.unparsableAfter "]\n")⟩, ⟨"", 1, 2, [], none⟩], none⟩

theorem json_determines_tree_thorny :
    thorny.toJson "\"\\x" = thorny.toJson "\"\\y" ∧
      ∀ node ∈ thorny.nodes, node.content "\"\\x" = node.content "\"\\y" := by
  have hjson : thorny.toJson "\"\\x" = thorny.toJson "\"\\y" := by decide +kernel
  exact ⟨hjson, (json_determines_tree hjson).2⟩

end Tree

end OrderedChoice
