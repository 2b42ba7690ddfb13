import OrderedChoice.Proofs.Skip

/-!
# Reading a text by offsets

A run carries the text that is left along with its offset, so it never cuts the text at an offset.
A reader that has the offset alone has to cut, and to cut inside a character or behind the end of
the text is a mistake that stops it. This module reads a text in that way, with every cut checked:

* `Checked.after` cuts the text at an offset, and `Checked.cut?_eq_some_iff` says that it succeeds
  exactly at the places of the text.
* `Checked.skip` skips white space and comments from an offset, and finds delimiters by how many
  bytes there are in front of them.
* `Checked.skip_eq`: from a place of the text no cut fails, and the outcome is that of skipping
  from the place.
-/

namespace OrderedChoice

namespace Checked

/-- **Why a checked run stops** without a result. -/
inductive Stop where
  /-- Symbols are nested as deeply as the bound allows. This is no mistake. -/
  | bound
  /-- The text is cut inside a character or behind its end. -/
  | cut (offset : Nat)
  /-- Something ends before it begins. -/
  | reversed (start stop : Nat)
  /-- No symbol has this number. -/
  | number (id : Nat)
  /-- The symbol of a parse is no nonterminal. -/
  | unknown (symbol : String)
  deriving DecidableEq

theorem ok_bind {α β : Type} (a : α) (f : α → Except Stop β) : (Except.ok a >>= f) = f a := rfl

/-! ### Cutting -/

/-- The characters behind the first `n` bytes of a text, unless these end inside a character or
there are not so many. -/
def cut? : Nat → List Char → Option (List Char)
  | 0, text => some text
  | _ + 1, [] => none
  | n + 1, c :: cs => if c.utf8Size ≤ n + 1 then cut? (n + 1 - c.utf8Size) cs else none

/-- **The text from an offset on.** -/
def after (text : List Char) (offset : Nat) : Except Stop (List Char) :=
  match cut? offset text with
  | some rest => .ok rest
  | none => .error (.cut offset)

/-- **The text up to an offset.** -/
def upTo (text : List Char) (offset : Nat) : Except Stop (List Char) := do
  let _ ← after text offset
  return Text.takeBytes offset text

/-- **The text between two offsets.** -/
def between (text : List Char) (start stop : Nat) : Except Stop (List Char) := do
  if stop < start then .error (.reversed start stop)
  let rest ← after text start
  let _ ← after text stop
  return Text.takeBytes (stop - start) rest

theorem cut?_zero (text : List Char) : cut? 0 text = some text := by
  cases text <;> rfl

/-- **A text is cut exactly at its places.** -/
theorem cut?_eq_some_iff {text rest : List Char} {offset : Nat} :
    cut? offset text = some rest ↔ (⟨offset, rest⟩ : Place).At text := by
  constructor
  · intro h
    fun_induction cut? offset text with
    | case1 text => exact ⟨[], Option.some.inj h, rfl⟩
    | case2 n => cases h
    | case3 n c cs hle ih =>
      -- The first character lies in front of the cut as a whole.
      obtain ⟨before, htext, hoffset⟩ := ih h
      refine ⟨c :: before, congrArg (c :: ·) htext, ?_⟩
      change n + 1 - c.utf8Size = Text.byteLength before at hoffset
      change n + 1 = c.utf8Size + Text.byteLength before
      omega
    | case4 n c cs hlt => cases h
  · rintro ⟨before, rfl, hoffset⟩
    change offset = Text.byteLength before at hoffset
    subst hoffset
    induction before with
    | nil => exact cut?_zero rest
    | cons c before ih =>
      -- A character has a byte at least, so the offset is not zero.
      obtain ⟨n, hn⟩ : ∃ n, c.utf8Size + Text.byteLength before = n + 1 :=
        ⟨c.utf8Size + Text.byteLength before - 1, by have := c.utf8Size_pos; omega⟩
      have hsub : n + 1 - c.utf8Size = Text.byteLength before := by omega
      rw [Text.byteLength_cons, hn, List.cons_append, cut?, if_pos (by omega), hsub]
      exact ih

theorem after_eq {text : List Char} {p : Place} (hp : p.At text) :
    after text p.offset = .ok p.rest := by
  rw [after, cut?_eq_some_iff.2 hp]

/-! ### Finding -/

/-- **How many bytes there are in front of the first place** at which the text that is left passes
a test, if there is one. -/
def find? (test : List Char → Bool) : List Char → Option Nat
  | [] => if test [] then some 0 else none
  | c :: cs => if test (c :: cs) then some 0 else (find? test cs).map (c.utf8Size + ·)

/-- Whether a text begins with a character of a class. -/
def beginsWith (p : Char → Bool) (text : List Char) : Bool := text.head?.any p

/-- **Skips white space** from an offset. -/
def skipBlanks (text : List Char) (offset : Nat) : Except Stop Nat := do
  let rest ← after text offset
  return match find? (beginsWith (!Text.isBlank ·)) rest with
    | some n => offset + n
    | none => Text.byteLength text

/-- **End of a comment** whose opening ends at an offset, if it has one. -/
def skipBody? (comment : Comment) (text : List Char) (body : Nat) : Except Stop (Option Nat) := do
  let rest ← after text body
  match comment.closing with
  | some closing =>
    return (find? closing.toList.isPrefixOf rest).map (body + · + Text.byteLength closing.toList)
  | none =>
    return some (match find? (beginsWith (· = '\n')) rest with
      | some n => body + n + 1
      | none => Text.byteLength text)

/-- Skips white space and comments, one comment in a round. -/
def skipRounds (comments : List Comment) (text : List Char) :
    Nat → Nat → Except Stop (Except Nat Nat)
  | 0, _ => .error .bound
  | rounds + 1, offset => do
    let offset ← skipBlanks text offset
    let rest ← after text offset
    match comments.find? (·.opening.toList.isPrefixOf rest) with
    | none => return .ok offset
    | some comment =>
      match ← skipBody? comment text (offset + Text.byteLength comment.opening.toList) with
      | none => return .error offset
      | some next => skipRounds comments text rounds next

/-- **Skips white space and comments** from an offset. A text has not more comments than
characters. -/
def skip (comments : List Comment) (text : List Char) (offset : Nat) :
    Except Stop (Except Nat Nat) :=
  skipRounds comments text (text.length + 1) offset

/-! ### No cut fails at a place of the text -/

variable {text : List Char} {p : Place}

theorem upTo_eq (hp : p.At text) : upTo text p.offset = .ok (Text.takeBytes p.offset text) := by
  rw [upTo, after_eq hp]
  rfl

theorem between_eq {q : Place} (hp : p.At text) (hle : p ≤ q) :
    between text p.offset q.offset = .ok (Text.slice p.offset q.offset text) := by
  rw [between, if_neg (Nat.not_lt.2 (Place.offset_le hle)), after_eq hp, after_eq (hp.of_le hle),
    Text.slice, hp.dropBytes]
  rfl

theorem find?_cons_of_pos {test : List Char → Bool} {c : Char} {cs : List Char}
    (h : test (c :: cs) = true) : find? test (c :: cs) = some 0 := by
  rw [find?, if_pos h]

theorem find?_cons_of_neg {test : List Char → Bool} {c : Char} {cs : List Char}
    (h : test (c :: cs) = false) :
    find? test (c :: cs) = (find? test cs).map (c.utf8Size + ·) := by
  rw [find?, if_neg (Bool.eq_false_iff.1 h)]

theorem skipWhile_offset (f : Char → Bool) (offset : Nat) (rest : List Char) :
    (Place.skipWhile f offset rest).offset =
      match find? (beginsWith (!f ·)) rest with
      | some n => offset + n
      | none => offset + Text.byteLength rest := by
  induction rest generalizing offset with
  | nil => rfl
  | cons c cs ih =>
    rw [Place.skipWhile]
    cases hc : f c with
    | true =>
      -- The offset moves here, and the count of bytes there.
      rw [if_pos rfl, ih, find?_cons_of_neg (by simp [beginsWith, hc])]
      cases find? (beginsWith (!f ·)) cs with
      | some n => exact Nat.add_assoc _ _ _
      | none => exact Nat.add_assoc _ _ _
    | false =>
      rw [if_neg Bool.false_ne_true, find?_cons_of_pos (by simp [beginsWith, hc])]
      rfl

theorem skipBlanks_eq (hp : p.At text) : skipBlanks text p.offset = .ok p.skipBlanks.offset := by
  rw [skipBlanks, after_eq hp, ok_bind, Place.skipBlanks, skipWhile_offset,
    hp.offset_add_byteLength]
  rfl

theorem skipLine_offset (offset : Nat) (rest : List Char) :
    (Place.skipLine offset rest).offset =
      match find? (beginsWith (· = '\n')) rest with
      | some n => offset + n + 1
      | none => offset + Text.byteLength rest := by
  induction rest generalizing offset with
  | nil => rfl
  | cons c cs ih =>
    rw [Place.skipLine]
    by_cases hc : c = '\n'
    · rw [if_pos hc, find?_cons_of_pos (by simp [beginsWith, hc]), hc]
      rfl
    · rw [if_neg hc, ih, find?_cons_of_neg (by simp [beginsWith, hc])]
      cases find? (beginsWith (· = '\n')) cs with
      | some n => exact congrArg (· + 1) (Nat.add_assoc _ _ _)
      | none => exact Nat.add_assoc _ _ _

theorem isSome_dropPrefix? (mark rest : List Char) :
    (Text.dropPrefix? mark rest).isSome = mark.isPrefixOf rest := by
  induction mark generalizing rest with
  | nil => rfl
  | cons m mark ih =>
    cases rest with
    | nil => rfl
    | cons c cs =>
      rw [Text.dropPrefix?, List.isPrefixOf]
      by_cases hc : m = c
      · rw [if_pos hc, ih, hc, BEq.rfl, Bool.true_and]
      · rw [if_neg hc, beq_false_of_ne hc, Bool.false_and, Option.isSome_none]

/-- Where a text is looked for, and where the way behind it leads. -/
theorem skipText?_offset (mark : List Char) (p : Place) :
    (p.skipText? mark).map (·.offset) =
      if mark.isPrefixOf p.rest then some (p.offset + Text.byteLength mark) else none := by
  rw [← isSome_dropPrefix?, Place.skipText?]
  cases Text.dropPrefix? mark p.rest <;> rfl

theorem findText?_offset (mark : List Char) (offset : Nat) (rest : List Char) :
    (Place.findText? mark offset rest).map (·.offset) =
      (find? mark.isPrefixOf rest).map (offset + · + Text.byteLength mark) := by
  induction rest generalizing offset with
  | nil =>
    rw [Place.findText?, skipText?_offset, find?]
    split <;> rfl
  | cons c cs ih =>
    have hskip := skipText?_offset mark ⟨offset, c :: cs⟩
    rw [Place.findText?]
    cases htest : mark.isPrefixOf (c :: cs) with
    | true =>
      -- The mark stands here.
      rw [if_pos htest] at hskip
      obtain ⟨next, hnext, hoffset⟩ := Option.map_eq_some_iff.1 hskip
      rw [hnext, find?_cons_of_pos htest, Option.map_some, hoffset]
      rfl
    | false =>
      -- It is looked for behind the first character.
      rw [if_neg (Bool.eq_false_iff.1 htest)] at hskip
      rw [Option.map_eq_none_iff.1 hskip, find?_cons_of_neg htest, Option.map_map]
      refine (ih _).trans (congrArg (Option.map · _) (funext fun n => ?_))
      exact congrArg (· + Text.byteLength mark) (Nat.add_assoc _ _ _)

theorem skipBody?_eq (comment : Comment) (hp : p.At text) :
    skipBody? comment text p.offset = .ok ((comment.skipBody? p).map (·.offset)) := by
  rw [skipBody?, after_eq hp, ok_bind, Comment.skipBody?]
  cases comment.closing with
  | some closing =>
    simp only [findText?_offset]
    rfl
  | none =>
    simp only [Option.map_some, skipLine_offset, hp.offset_add_byteLength]
    rfl

/-- The comment that opens at a place, and how far its opening reaches. -/
theorem opened?_offset (comments : List Comment) (p : Place) :
    (opened? comments p).map (fun found => (found.1, found.2.offset)) =
      (comments.find? (·.opening.toList.isPrefixOf p.rest)).map fun comment =>
        (comment, p.offset + Text.byteLength comment.opening.toList) := by
  induction comments with
  | nil => rfl
  | cons comment comments ih =>
    have hskip := skipText?_offset comment.opening.toList p
    rw [opened?, List.findSome?_cons, List.find?_cons]
    -- The first comment decides, if it opens here; otherwise it is passed over on both sides.
    cases htest : comment.opening.toList.isPrefixOf p.rest with
    | true =>
      rw [if_pos htest] at hskip
      obtain ⟨next, hnext, hoffset⟩ := Option.map_eq_some_iff.1 hskip
      simp only [hnext, Option.map_some, hoffset]
    | false =>
      rw [if_neg (Bool.eq_false_iff.1 htest)] at hskip
      simp only [Option.map_eq_none_iff.1 hskip, Option.map_none]
      exact ih

theorem skipRounds_eq (comments : List Comment) {rounds : Nat} (hrounds : p.rest.length < rounds)
    (hp : p.At text) :
    skipRounds comments text rounds p.offset = .ok (skipFrom comments text p.offset) := by
  induction rounds generalizing p with
  | zero => exact absurd hrounds (Nat.not_lt_zero _)
  | succ rounds ih =>
    have hblanks := hp.of_le p.skipBlanks_le
    have hfind := opened?_offset comments p.skipBlanks
    rw [skipRounds, skipBlanks_eq hp, ok_bind, after_eq hblanks, ok_bind]
    cases hopened : opened? comments p.skipBlanks with
    | none =>
      -- No comment opens, for either of the two.
      rw [hopened] at hfind
      rw [Option.map_eq_none_iff.1 hfind.symm, skipFrom_of_skip_ok hp (by rw [skip_eq, hopened])]
      rfl
    | some found =>
      obtain ⟨comment, body⟩ := found
      rw [hopened] at hfind
      obtain ⟨candidate, hcandidate, hpair⟩ := Option.map_eq_some_iff.1 hfind.symm
      obtain ⟨rfl, hoffset⟩ := Prod.mk.inj hpair
      have hbody := hblanks.of_le (opened?_le hopened)
      rw [hcandidate]
      simp only [hoffset, skipBody?_eq candidate hbody, ok_bind]
      cases hend : candidate.skipBody? body with
      | none =>
        have hskip : OrderedChoice.skip comments p = .error p.skipBlanks := by
          rw [skip_eq, hopened]
          simp only [hend]
        rw [skipFrom_of_skip_error hp hskip]
        rfl
      | some next =>
        -- The comment takes up a character at least, so there are rounds enough for the rest.
        have hlt := round_length_lt hopened hend
        have hnext := hbody.of_le (Comment.skipBody?_le hend)
        refine (ih (by omega) hnext).trans (congrArg Except.ok ?_)
        rw [skipFrom, skipFrom, ← hp.eq_ofOffset, ← hnext.eq_ofOffset, skip_eq comments p, hopened]
        simp only [hend]

/-- **Skipping by offsets is skipping**: from a place of the text no cut fails. -/
theorem skip_eq (comments : List Comment) (hp : p.At text) :
    skip comments text p.offset = .ok (skipFrom comments text p.offset) := by
  refine skipRounds_eq comments ?_ hp
  have hle := Place.length_rest_le (Place.at_iff_begin_le.1 hp)
  exact Nat.lt_succ_of_le hle

end Checked

end OrderedChoice
