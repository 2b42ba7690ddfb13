import Mathlib.Data.List.Forall2
import OrderedChoice.Grammar.Document

/-!
# What a document says

A grammar document is decoded from a JSON value. What it says is stated here as a relation between
the value and a `Draft`, which has the start symbol, the delimiters of the comments and the rules as
they stand in the text: delimiters may be empty, and names may be repeated. The relation knows
nothing of how a value is decoded.

* `Document.Describes` is the relation, and `Document.Describes.unique` says that a value describes
  one draft at most.
* `Document.ofJson?_eq_some_iff`: decoding succeeds exactly on the values that describe a draft
  without empty delimiters, and gives the draft with the last entry of each name.
-/

namespace OrderedChoice

/-- **A comment has the delimiters that it is made of**, and with proper ones it is made. -/
theorem Comment.ofDelimiters_eq_ok_iff {opening : String} {closing : Option String}
    {comment : Comment} :
    ofDelimiters opening closing = .ok comment ↔
      comment.opening = opening ∧ comment.closing = closing := by
  rw [ofDelimiters]
  constructor
  · intro h
    split at h
    · cases h
    · split at h
      · cases h
      · obtain rfl := Except.ok.inj h
        exact ⟨rfl, rfl⟩
  · rintro ⟨rfl, rfl⟩
    rw [dif_neg comment.opening_ne, dif_neg comment.closing_ne]

namespace Json

variable {α : Type}

/-- **A text.** -/
inductive IsText : Json → String → Prop where
  | string (text : String) : IsText (.string (some text)) text

/-- **A text or null.** -/
inductive IsOptionalText : Json → Option String → Prop where
  | null : IsOptionalText .null none
  | text (text : String) : IsOptionalText (.string (some text)) (some text)

/-- **An array** of values of one kind. -/
inductive IsListOf (R : Json → α → Prop) : Json → List α → Prop where
  | array {items : List Json} {list : List α} (h : List.Forall₂ R items list) :
      IsListOf R (.array items) list

theorem text?_eq_some_iff {value : Json} {text : String} :
    value.text? = some text ↔ value.IsText text := by
  constructor
  · intro h
    cases value with
    | string found =>
      obtain rfl : found = some text := h
      exact .string text
    | _ => cases h
  · rintro ⟨⟩
    rfl

theorem optional?_eq_some_iff {value : Json} {text : Option String} :
    optional? text? value = some text ↔ IsOptionalText value text := by
  constructor
  · intro h
    cases value with
    | null =>
      rw [← Option.some.inj h]
      exact .null
    | string found =>
      obtain ⟨found, rfl, rfl⟩ := Option.map_eq_some_iff.1 h
      exact .text found
    | _ => cases h
  · rintro (_ | _) <;> rfl

theorem mapM_eq_some_iff {β : Type} {decode : β → Option α} {R : β → α → Prop}
    (h : ∀ value a, decode value = some a ↔ R value a) {values : List β} {list : List α} :
    values.mapM decode = some list ↔ List.Forall₂ R values list := by
  induction values generalizing list with
  | nil => simp [eq_comm]
  | cons value values ih =>
    simp only [List.mapM_cons, Option.bind_eq_bind, Option.bind_eq_some_iff, Option.pure_def,
      Option.some.injEq, List.forall₂_cons_left_iff, h, ih]
    exact ⟨fun ⟨a, ha, rest, hrest, heq⟩ => ⟨a, rest, ha, hrest, heq.symm⟩,
      fun ⟨a, rest, ha, hrest, heq⟩ => ⟨a, ha, rest, hrest, heq.symm⟩⟩

theorem listOf?_eq_some_iff {decode : Json → Option α} {R : Json → α → Prop}
    (h : ∀ value a, decode value = some a ↔ R value a) {value : Json} {list : List α} :
    listOf? decode value = some list ↔ IsListOf R value list := by
  cases value with
  | array items =>
    refine (mapM_eq_some_iff h).trans ⟨.array, ?_⟩
    rintro ⟨hitems⟩
    exact hitems
  | _ =>
    constructor
    · intro h
      cases h
    · rintro ⟨⟩

theorem isText_unique : Relator.RightUnique IsText := by
  rintro _ _ _ ⟨_⟩ ⟨_⟩
  rfl

theorem isOptionalText_unique : Relator.RightUnique IsOptionalText := by
  rintro _ _ _ (_ | _) (_ | _) <;> rfl

theorem isListOf_unique {R : Json → α → Prop} (h : Relator.RightUnique R) :
    Relator.RightUnique (IsListOf R) := by
  rintro _ _ _ ⟨hitems⟩ ⟨hitems'⟩
  exact h.forall₂ hitems hitems'

end Json

namespace Document

open Json

/-! ### What a value says -/

/-- **A member that may be missing**, and then has a default. -/
inductive IsMember {α : Type} (R : Json → α → Prop) (default : α) (name : String)
    (members : List (Option String × Json)) : α → Prop where
  /-- No member has the name. -/
  | missing (h : membersNamed name members = []) : IsMember R default name members default
  /-- One member has it, and not two. -/
  | present {value : Json} {a : α} (h : membersNamed name members = [value]) (ha : R value a) :
      IsMember R default name members a

/-- **A comment** with its delimiters: an object whose names are all texts, or an array. -/
inductive IsComment : Json → String × Option String → Prop where
  /-- An object may have members of any names, but its opening is there once. -/
  | object {members : List (Option String × Json)} {value : Json} {opening : String}
      {closing : Option String} (names : ∀ member ∈ members, member.1.isSome = true)
      (hvalue : membersNamed "start" members = [value]) (hopening : value.IsText opening)
      (hclosing : IsMember IsOptionalText none "end" members closing) :
      IsComment (.object members) (opening, closing)
  /-- An array may end with the opening. -/
  | line {value : Json} {opening : String} (hopening : value.IsText opening) :
      IsComment (.array [value]) (opening, none)
  | block {value other : Json} {opening : String} {closing : Option String}
      (hopening : value.IsText opening) (hclosing : IsOptionalText other closing) :
      IsComment (.array [value, other]) (opening, closing)

/-- **An expansion**: the names of its symbols. -/
def IsExpansion (value : Json) (expansion : Expansion) : Prop :=
  IsListOf IsText value expansion.symbols

/-- **A rule**: a name and its expansions. -/
def IsRule (member : Option String × Json) (entry : RuleEntry) : Prop :=
  member.1 = some entry.1 ∧ IsListOf IsExpansion member.2 entry.2

/-- **Rules**: the members of an object in the order of the text. -/
inductive IsRules : Json → List RuleEntry → Prop where
  | object {members : List (Option String × Json)} {entries : List RuleEntry}
      (h : List.Forall₂ IsRule members entries) : IsRules (.object members) entries

/-- **Draft of a grammar**, as it stands in a document: delimiters may be empty, and names may be
repeated. -/
structure Draft where
  /-- The start symbol, if there is one. -/
  start : Option String
  /-- The delimiters of the comments. -/
  delimiters : List (String × Option String)
  /-- The rules in the order of the text. -/
  entries : List RuleEntry

/-- **A value describes a draft**: as an object without members of other names, or as an array. -/
inductive Describes : Json → Draft → Prop where
  | object {members : List (Option String × Json)} {draft : Draft} {value : Json}
      (names : ∀ member ∈ members, ∃ name ∈ memberNames, member.1 = some name)
      (hstart : IsMember IsOptionalText none "start" members draft.start)
      (hcomments : IsMember (IsListOf IsComment) [] "comments" members draft.delimiters)
      (hvalue : membersNamed "rules" members = [value]) (hrules : IsRules value draft.entries) :
      Describes (.object members) draft
  | array {start comments rules : Json} {draft : Draft}
      (hstart : IsOptionalText start draft.start)
      (hcomments : IsListOf IsComment comments draft.delimiters)
      (hrules : IsRules rules draft.entries) : Describes (.array [start, comments, rules]) draft

/-! ### Decoding -/

section Members

variable {α β : Type} {name : String} {members : List (Option String × Json)} {b : β}

/-- A member that may be missing, and what is made of it. -/
theorem bind_memberOr?_eq_some_iff {decode : Json → Option α} {R : Json → α → Prop}
    (h : ∀ value a, decode value = some a ↔ R value a) {default : α} {f : α → Option β} :
    ((member? name members).bind fun value => (memberOr? default decode value).bind f) = some b ↔
      ∃ a, IsMember R default name members a ∧ f a = some b := by
  constructor
  · intro hdecode
    rw [member?] at hdecode
    -- There is no such member, there is one, or there are more; the last is refused.
    split at hdecode
    · next hnone => exact ⟨default, .missing hnone, hdecode⟩
    · next value hone =>
      rw [Option.bind_some] at hdecode
      obtain ⟨a, ha, hb⟩ := Option.bind_eq_some_iff.1 hdecode
      exact ⟨a, .present hone ((h _ _).1 ha), hb⟩
    · cases hdecode
  · rintro ⟨a, hnone | ⟨hone, ha⟩, hb⟩
    · rw [member?, hnone]
      exact hb
    · rw [member?, hone, Option.bind_some]
      exact Option.bind_eq_some_iff.2 ⟨a, (h _ _).2 ha, hb⟩

/-- A member that has to be there, and what is made of it. -/
theorem bind_member?_eq_some_iff {decode : Json → Option α} {f : α → Option β} :
    ((member? name members).bind fun value => (value.bind decode).bind f) = some b ↔
      ∃ value a, membersNamed name members = [value] ∧ decode value = some a ∧ f a = some b := by
  constructor
  · intro hdecode
    rw [member?] at hdecode
    split at hdecode
    · cases hdecode
    · next value hone =>
      rw [Option.bind_some] at hdecode
      obtain ⟨a, ha, hb⟩ := Option.bind_eq_some_iff.1 hdecode
      exact ⟨value, a, hone, ha, hb⟩
    · cases hdecode
  · rintro ⟨value, a, hone, ha, hb⟩
    rw [member?, hone, Option.bind_some]
    exact Option.bind_eq_some_iff.2 ⟨a, ha, hb⟩

end Members

theorem any_isNone_eq_false_iff {members : List (Option String × Json)} :
    members.any (·.1.isNone) = false ↔ ∀ member ∈ members, member.1.isSome = true := by
  simp only [List.any_eq_false, Bool.not_eq_true, Option.isNone_eq_false_iff]

theorem any_otherName_eq_false_iff {members : List (Option String × Json)} :
    (members.any fun member => !member.1.any memberNames.contains) = false ↔
      ∀ member ∈ members, ∃ name ∈ memberNames, member.1 = some name := by
  simp only [List.any_eq_false, Bool.not_eq_true', Bool.not_eq_false, Option.any_eq_true,
    List.contains_iff_mem]
  exact forall₂_congr fun member _ => exists_congr fun name => and_comm

/-! ### Comments and rules -/

theorem commentOf?_eq_some_iff {opening : String} {closing : Option String} {comment : Comment} :
    commentOf? opening closing = some comment ↔
      comment.opening = opening ∧ comment.closing = closing := by
  rw [← Comment.ofDelimiters_eq_ok_iff, commentOf?]
  cases Comment.ofDelimiters opening closing <;> simp [Except.toOption]

/-- **A value is decoded to a comment** exactly if it describes its delimiters. -/
theorem comment?_eq_some_iff {value : Json} {comment : Comment} :
    comment? value = some comment ↔ IsComment value (comment.opening, comment.closing) := by
  constructor
  · intro h
    rw [comment?.eq_def] at h
    split at h
    · next members =>
      simp only [Option.bind_eq_bind] at h
      split at h
      · cases h
      · next hnames =>
        obtain ⟨value, opening, hvalue, hopening, h⟩ := bind_member?_eq_some_iff.1 h
        obtain ⟨closing, hclosing, h⟩ :=
          (bind_memberOr?_eq_some_iff fun _ _ => optional?_eq_some_iff).1 h
        obtain ⟨rfl, rfl⟩ := commentOf?_eq_some_iff.1 h
        exact .object (any_isNone_eq_false_iff.1 (Bool.eq_false_iff.2 hnames)) hvalue
          (text?_eq_some_iff.1 hopening) hclosing
    · obtain ⟨opening, hopening, h⟩ := Option.bind_eq_some_iff.1 h
      obtain ⟨rfl, hclosing⟩ := commentOf?_eq_some_iff.1 h
      rw [hclosing]
      exact .line (text?_eq_some_iff.1 hopening)
    · obtain ⟨opening, hopening, h⟩ := Option.bind_eq_some_iff.1 h
      obtain ⟨closing, hclosing, h⟩ := Option.bind_eq_some_iff.1 h
      obtain ⟨rfl, rfl⟩ := commentOf?_eq_some_iff.1 h
      exact .block (text?_eq_some_iff.1 hopening) (optional?_eq_some_iff.1 hclosing)
    · cases h
  · intro h
    -- The delimiters in the relation are those of the comment, so it is the one that is made.
    generalize hdelimiters : (comment.opening, comment.closing) = delimiters at h
    have hcomment : ∀ {opening closing}, (comment.opening, comment.closing) = (opening, closing) →
        commentOf? opening closing = some comment := fun heq =>
      commentOf?_eq_some_iff.2 (Prod.mk.inj heq)
    rw [comment?.eq_def]
    cases h with
    | object names hvalue hopening hclosing =>
      simp only [Option.bind_eq_bind]
      rw [if_neg (Bool.eq_false_iff.1 (any_isNone_eq_false_iff.2 names))]
      refine bind_member?_eq_some_iff.2 ⟨_, _, hvalue, text?_eq_some_iff.2 hopening, ?_⟩
      refine (bind_memberOr?_eq_some_iff fun _ _ => optional?_eq_some_iff).2 ⟨_, hclosing, ?_⟩
      exact hcomment hdelimiters
    | line hopening =>
      exact Option.bind_eq_some_iff.2 ⟨_, text?_eq_some_iff.2 hopening, hcomment hdelimiters⟩
    | block hopening hclosing =>
      refine Option.bind_eq_some_iff.2 ⟨_, text?_eq_some_iff.2 hopening, ?_⟩
      exact Option.bind_eq_some_iff.2
        ⟨_, optional?_eq_some_iff.2 hclosing, hcomment hdelimiters⟩

theorem expansion?_eq_some_iff {value : Json} {expansion : Expansion} :
    expansion? value = some expansion ↔ IsExpansion value expansion := by
  rw [expansion?, Option.map_eq_some_iff, IsExpansion,
    ← listOf?_eq_some_iff fun _ _ => text?_eq_some_iff]
  constructor
  · rintro ⟨symbols, hsymbols, rfl⟩
    exact hsymbols
  · intro hsymbols
    exact ⟨_, hsymbols, rfl⟩

theorem rule?_eq_some_iff {member : Option String × Json} {entry : RuleEntry} :
    rule? member = some entry ↔ IsRule member entry := by
  rw [IsRule, ← listOf?_eq_some_iff fun _ _ => expansion?_eq_some_iff]
  obtain ⟨name | name, value⟩ := member
  · exact ⟨nofun, fun h => nomatch h.1⟩
  · rw [rule?, Option.map_eq_some_iff]
    constructor
    · rintro ⟨expansions, hexpansions, rfl⟩
      exact ⟨rfl, hexpansions⟩
    · rintro ⟨hname, hexpansions⟩
      exact ⟨entry.2, hexpansions, Prod.ext (Option.some.inj hname) rfl⟩

theorem rules?_eq_some_iff {value : Json} {rules : List RuleEntry} :
    rules? value = some rules ↔ ∃ entries, IsRules value entries ∧ keepLast entries = rules := by
  constructor
  · intro h
    cases value with
    | object members =>
      obtain ⟨entries, hentries, hrules⟩ := Option.map_eq_some_iff.1 h
      exact ⟨entries, .object ((mapM_eq_some_iff fun _ _ => rule?_eq_some_iff).1 hentries), hrules⟩
    | _ => cases h
  · rintro ⟨entries, ⟨hentries⟩, rfl⟩
    exact Option.map_eq_some_iff.2
      ⟨entries, (mapM_eq_some_iff fun _ _ => rule?_eq_some_iff).2 hentries, rfl⟩

/-! ### Documents -/

/-- The delimiters of comments. -/
def delimitersOf (comments : List Comment) : List (String × Option String) :=
  comments.map fun comment => (comment.opening, comment.closing)

theorem listOf?_comment?_eq_some_iff {value : Json} {comments : List Comment} :
    listOf? comment? value = some comments ↔ IsListOf IsComment value (delimitersOf comments) := by
  rw [listOf?_eq_some_iff fun _ _ => comment?_eq_some_iff]
  constructor
  · rintro ⟨h⟩
    exact .array (List.forall₂_map_right_iff.2 h)
  · intro h
    generalize hdelimiters : delimitersOf comments = delimiters at h
    obtain ⟨h⟩ := h
    rw [← hdelimiters] at h
    exact .array (List.forall₂_map_right_iff.1 h)

theorem isMember_delimitersOf_iff {members : List (Option String × Json)}
    {comments : List Comment} :
    IsMember (fun value comments => IsListOf IsComment value (delimitersOf comments)) [] "comments"
        members comments ↔
      IsMember (IsListOf IsComment) [] "comments" members (delimitersOf comments) := by
  constructor
  · rintro (hnone | ⟨hone, h⟩)
    · exact .missing hnone
    · exact .present hone h
  · intro h
    generalize hdelimiters : delimitersOf comments = delimiters at h
    cases h with
    | missing hnone =>
      -- Only the empty list has no delimiters.
      rw [List.map_eq_nil_iff.1 hdelimiters]
      exact .missing hnone
    | present hone h => exact .present hone (hdelimiters ▸ h)

/-- **Decoding a document** succeeds exactly on the values that describe a draft with proper
delimiters, and keeps the last entry of each name. -/
theorem ofJson?_eq_some_iff {value : Json} {document : Document} :
    ofJson? value = some document ↔ ∃ entries, keepLast entries = document.rules ∧
      Describes value ⟨document.start, delimitersOf document.comments, entries⟩ := by
  constructor
  · intro h
    rw [ofJson?.eq_def] at h
    split at h
    · next members =>
      simp only [Option.bind_eq_bind] at h
      split at h
      · cases h
      · next hnames =>
        obtain ⟨start, hstart, h⟩ :=
          (bind_memberOr?_eq_some_iff fun _ _ => optional?_eq_some_iff).1 h
        obtain ⟨comments, hcomments, h⟩ :=
          (bind_memberOr?_eq_some_iff fun _ _ => listOf?_comment?_eq_some_iff).1 h
        obtain ⟨value, rules, hvalue, hrules, h⟩ := bind_member?_eq_some_iff.1 h
        obtain rfl := Option.some.inj h
        obtain ⟨entries, hentries, hkept⟩ := rules?_eq_some_iff.1 hrules
        exact ⟨entries, hkept, .object
          (any_otherName_eq_false_iff.1 (Bool.eq_false_iff.2 hnames)) hstart
          (isMember_delimitersOf_iff.1 hcomments) hvalue hentries⟩
    · obtain ⟨start, hstart, h⟩ := Option.bind_eq_some_iff.1 h
      obtain ⟨comments, hcomments, h⟩ := Option.bind_eq_some_iff.1 h
      obtain ⟨rules, hrules, h⟩ := Option.bind_eq_some_iff.1 h
      obtain rfl := Option.some.inj h
      obtain ⟨entries, hentries, hkept⟩ := rules?_eq_some_iff.1 hrules
      exact ⟨entries, hkept, .array (optional?_eq_some_iff.1 hstart)
        (listOf?_comment?_eq_some_iff.1 hcomments) hentries⟩
    · cases h
  · rintro ⟨entries, hkept, h⟩
    rw [ofJson?.eq_def]
    cases h with
    | object names hstart hcomments hvalue hrules =>
      simp only [Option.bind_eq_bind]
      rw [if_neg (Bool.eq_false_iff.1 (any_otherName_eq_false_iff.2 names))]
      refine (bind_memberOr?_eq_some_iff fun _ _ => optional?_eq_some_iff).2 ⟨_, hstart, ?_⟩
      refine (bind_memberOr?_eq_some_iff fun _ _ => listOf?_comment?_eq_some_iff).2
        ⟨_, isMember_delimitersOf_iff.2 hcomments, ?_⟩
      exact bind_member?_eq_some_iff.2
        ⟨_, _, hvalue, rules?_eq_some_iff.2 ⟨entries, hrules, hkept⟩, rfl⟩
    | array hstart hcomments hrules =>
      refine Option.bind_eq_some_iff.2 ⟨_, optional?_eq_some_iff.2 hstart, ?_⟩
      refine Option.bind_eq_some_iff.2 ⟨_, listOf?_comment?_eq_some_iff.2 hcomments, ?_⟩
      exact Option.bind_eq_some_iff.2
        ⟨_, rules?_eq_some_iff.2 ⟨entries, hrules, hkept⟩, rfl⟩

/-! ### A value describes one draft at most -/

theorem IsMember.unique {α : Type} {R : Json → α → Prop} (h : Relator.RightUnique R) {default : α}
    {name : String} {members : List (Option String × Json)} {a b : α}
    (ha : IsMember R default name members a) (hb : IsMember R default name members b) : a = b := by
  cases ha with
  | missing hnone =>
    cases hb with
    | missing _ => rfl
    | present hone _ => cases hnone.symm.trans hone
  | present hone ha =>
    cases hb with
    | missing hnone => cases hnone.symm.trans hone
    | present hone' hb =>
      -- Both have found the one member of that name.
      obtain rfl := List.singleton_inj.1 (hone.symm.trans hone')
      exact h ha hb

theorem isComment_unique : Relator.RightUnique IsComment := by
  intro value delimiters delimiters' h h'
  cases h with
  | object _ hvalue hopening hclosing =>
    cases h' with
    | object _ hvalue' hopening' hclosing' =>
      obtain rfl := List.singleton_inj.1 (hvalue.symm.trans hvalue')
      exact Prod.ext (isText_unique hopening hopening')
        (hclosing.unique isOptionalText_unique hclosing')
  | line hopening =>
    cases h' with
    | line hopening' => exact Prod.ext (isText_unique hopening hopening') rfl
  | block hopening hclosing =>
    cases h' with
    | block hopening' hclosing' =>
      exact Prod.ext (isText_unique hopening hopening')
        (isOptionalText_unique hclosing hclosing')

theorem isRules_unique : Relator.RightUnique IsRules := by
  have hexpansion : Relator.RightUnique IsExpansion := by
    rintro value ⟨symbols⟩ ⟨symbols'⟩ h h'
    exact congrArg Expansion.mk (isListOf_unique isText_unique h h')
  have hrule : Relator.RightUnique IsRule := by
    rintro member entry entry' ⟨hname, h⟩ ⟨hname', h'⟩
    exact Prod.ext (Option.some.inj (hname.symm.trans hname'))
      (isListOf_unique hexpansion h h')
  rintro _ _ _ ⟨h⟩ ⟨h'⟩
  exact hrule.forall₂ h h'

/-- **A value describes one draft at most.** -/
theorem Describes.unique {value : Json} {draft draft' : Draft} (h : Describes value draft)
    (h' : Describes value draft') : draft = draft' := by
  obtain ⟨start, delimiters, entries⟩ := draft
  obtain ⟨start', delimiters', entries'⟩ := draft'
  cases h with
  | object _ hstart hcomments hvalue hrules =>
    cases h' with
    | object _ hstart' hcomments' hvalue' hrules' =>
      obtain rfl := List.singleton_inj.1 (hvalue.symm.trans hvalue')
      obtain rfl := hstart.unique isOptionalText_unique hstart'
      obtain rfl := hcomments.unique (isListOf_unique isComment_unique) hcomments'
      obtain rfl := isRules_unique hrules hrules'
      rfl
  | array hstart hcomments hrules =>
    cases h' with
    | array hstart' hcomments' hrules' =>
      obtain rfl := isOptionalText_unique hstart hstart'
      obtain rfl := isListOf_unique isComment_unique hcomments hcomments'
      obtain rfl := isRules_unique hrules hrules'
      rfl

end Document

end OrderedChoice
