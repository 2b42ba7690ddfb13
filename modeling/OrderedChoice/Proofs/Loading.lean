import OrderedChoice.Proofs.Bound
import OrderedChoice.Proofs.Decoding
import OrderedChoice.Proofs.Entries

/-!
# Loading is building

A grammar is loaded from a document or built from a list of entries, and the two do not treat their
input alike. A document may have a nonterminal twice, and then the last entry counts; a list may
have it twice, and then the entries add up. A comment with an empty delimiter is refused on both
ways, but a document with one is malformed as a whole, whatever else is wrong with it.

Nevertheless a document gives what building gives: its own last entries have each name once, so
nothing adds up, and then their order does not count.

* `Document.KeepsLast` says what it is to keep the last entries, in any order.
* `Grammar.loading_is_building`: loading the text of a draft is building from its last entries.
-/

namespace OrderedChoice

namespace Document

/-! ### The last entries -/

/-- **The last entries of a list**, in any order: each name once, with its last entry. -/
structure KeepsLast (entries kept : List RuleEntry) : Prop where
  /-- No name is repeated. -/
  once : (kept.map (·.1)).Nodup
  /-- An entry is kept exactly if it is the last one of its name. -/
  mem_iff : ∀ entry, entry ∈ kept ↔ (entries.filter (·.1 = entry.1)).getLast? = some entry

theorem mem_keepLast_iff {entries : List RuleEntry} {entry : RuleEntry} :
    entry ∈ keepLast entries ↔ (entries.filter (·.1 = entry.1)).getLast? = some entry := by
  induction entries with
  | nil => simp [keepLast]
  | cons first rest ih =>
    rw [keepLast]
    by_cases hname : first.1 = entry.1
    · rw [List.filter_cons_of_pos (by simpa using hname), List.getLast?_cons]
      split
      · next hany =>
        -- A later entry has the same name, and the last one of these is the last one of all.
        obtain ⟨later, hlater, heq⟩ := List.any_eq_true.1 hany
        have hmem : later ∈ rest.filter (·.1 = entry.1) :=
          List.mem_filter.2 ⟨hlater, decide_eq_true ((of_decide_eq_true heq).trans hname)⟩
        rw [ih, List.getLast?_eq_some_getLast (List.ne_nil_of_mem hmem), Option.getD_some]
      · next hany =>
        have hnil : rest.filter (·.1 = entry.1) = [] := by
          refine List.filter_eq_nil_iff.2 fun later hlater heq => hany ?_
          refine List.any_eq_true.2 ⟨later, hlater, decide_eq_true ?_⟩
          exact (of_decide_eq_true heq).trans hname.symm
        rw [hnil] at ih ⊢
        rw [List.mem_cons, ih, List.getLast?_nil, Option.getD_none, Option.some.injEq]
        exact ⟨fun h => h.elim Eq.symm nofun, fun h => .inl h.symm⟩
    · -- An entry of another name does not matter.
      have hne : entry ≠ first := fun h => hname (h ▸ rfl)
      rw [List.filter_cons_of_neg (by simpa using hname), ← ih]
      split
      · rfl
      · rw [List.mem_cons, or_iff_right hne]

theorem keepsLast_keepLast (entries : List RuleEntry) : KeepsLast entries (keepLast entries) := by
  refine ⟨?_, fun entry => mem_keepLast_iff⟩
  induction entries with
  | nil => exact List.nodup_nil
  | cons first rest ih =>
    rw [keepLast]
    split
    · exact ih
    · next hany =>
      refine List.nodup_cons.2 ⟨fun hmem => hany ?_, ih⟩
      -- What is kept of the rest stands in the rest.
      obtain ⟨entry, hentry, hname⟩ := List.mem_map.1 hmem
      have hrest := List.mem_of_getLast? (mem_keepLast_iff.1 hentry)
      exact List.any_eq_true.2 ⟨entry, (List.mem_filter.1 hrest).1, decide_eq_true hname⟩

/-- **The order does not count** in what is kept. -/
theorem keepsLast_iff_perm {entries kept : List RuleEntry} :
    KeepsLast entries kept ↔ kept.Perm (keepLast entries) := by
  constructor
  · intro h
    refine (List.perm_ext_iff_of_nodup (List.Nodup.of_map _ h.once)
      (List.Nodup.of_map _ (keepsLast_keepLast entries).once)).2 fun entry => ?_
    rw [h.mem_iff, mem_keepLast_iff]
  · intro h
    refine ⟨(h.map _).nodup_iff.2 (keepsLast_keepLast entries).once, fun entry => ?_⟩
    rw [h.mem_iff, mem_keepLast_iff]

/-- **Whatever the order of the last entries**, they have the same rules. -/
theorem KeepsLast.ofEntries_eq {entries kept : List RuleEntry} (h : KeepsLast entries kept) :
    Rules.ofEntries kept = Rules.ofEntries (keepLast entries) := by
  refine Rules.ofEntries_congr fun name => Option.ext fun expansions => ?_
  rw [Rules.expansionsOf_eq_some_iff h.once,
    Rules.expansionsOf_eq_some_iff (keepsLast_keepLast entries).once,
    (keepsLast_iff_perm.1 h).mem_iff]

/-! ### Comments -/

/-- **Delimiters that make no comment.** -/
def IsImproper (delimiters : String × Option String) : Prop :=
  delimiters.1 = "" ∨ delimiters.2 = some ""

/-- **Comments with the given delimiters**, made one after the other. -/
def commentsOf (delimiters : List (String × Option String)) : Except Error (List Comment) :=
  delimiters.mapM fun delimiter => Comment.ofDelimiters delimiter.1 delimiter.2

/-- No comment has such delimiters. -/
theorem not_isImproper {comments : List Comment} {delimiter : String × Option String}
    (h : delimiter ∈ delimitersOf comments) : ¬ IsImproper delimiter := by
  obtain ⟨comment, -, rfl⟩ := List.mem_map.1 h
  exact fun himproper => himproper.elim comment.opening_ne comment.closing_ne

/-- **Comments have the delimiters that they are made of**, and the only failure is an improper
one. -/
theorem commentsOf_cases (delimiters : List (String × Option String)) :
    (∃ comments, commentsOf delimiters = .ok comments ∧ delimitersOf comments = delimiters) ∨
      commentsOf delimiters = .error .emptyDelimiter ∧
        ∃ delimiter ∈ delimiters, IsImproper delimiter := by
  induction delimiters with
  | nil => exact .inl ⟨[], rfl, rfl⟩
  | cons delimiter rest ih =>
    have hcons : commentsOf (delimiter :: rest) =
        (Comment.ofDelimiters delimiter.1 delimiter.2 >>= fun comment =>
          commentsOf rest >>= fun comments => pure (comment :: comments)) := List.mapM_cons
    rw [hcons]
    by_cases himproper : IsImproper delimiter
    · -- The first comment cannot be made, and the others are not looked at.
      have herror : Comment.ofDelimiters delimiter.1 delimiter.2 = .error .emptyDelimiter := by
        rw [Comment.ofDelimiters]
        split
        · rfl
        · next hopening => rw [dif_pos (himproper.resolve_left hopening)]
      rw [herror]
      exact .inr ⟨rfl, delimiter, List.mem_cons_self, himproper⟩
    · obtain ⟨hopening, hclosing⟩ := not_or.1 himproper
      have hok := Comment.ofDelimiters_eq_ok_iff.2
        (⟨rfl, rfl⟩ : _ ∧ (Comment.mk delimiter.1 delimiter.2 hopening hclosing).closing = _)
      rw [hok]
      rcases ih with ⟨comments, hcomments, hdelimiters⟩ | ⟨herror, bad, hbad, himproper⟩
      · rw [hcomments]
        exact .inl ⟨_, rfl, congrArg (delimiter :: ·) hdelimiters⟩
      · rw [herror]
        exact .inr ⟨rfl, bad, List.mem_cons_of_mem _ hbad, himproper⟩

end Document

namespace Grammar

open Document

/-! ### Loading -/

/-- **A text says a draft**: it is the text of a value that describes the draft. -/
def Says (text : String) (draft : Draft) : Prop :=
  ∃ value, Json.ofText? text.toList = some value ∧ Describes value draft

theorem ofText?_eq_some_iff {text : String} {document : Document} :
    Document.ofText? text = some document ↔ ∃ entries, keepLast entries = document.rules ∧
      Says text ⟨document.start, delimitersOf document.comments, entries⟩ := by
  rw [Document.ofText?, Option.bind_eq_some_iff]
  constructor
  · rintro ⟨value, hvalue, hdocument⟩
    obtain ⟨entries, hkept, hdescribes⟩ := ofJson?_eq_some_iff.1 hdocument
    exact ⟨entries, hkept, value, hvalue, hdescribes⟩
  · rintro ⟨entries, hkept, value, hvalue, hdescribes⟩
    exact ⟨value, hvalue, ofJson?_eq_some_iff.2 ⟨entries, hkept, hdescribes⟩⟩

theorem Says.unique {text : String} {draft draft' : Draft} (h : Says text draft)
    (h' : Says text draft') : draft = draft' := by
  obtain ⟨value, hvalue, hdescribes⟩ := h
  obtain ⟨value', hvalue', hdescribes'⟩ := h'
  obtain rfl := Option.some.inj (hvalue.symm.trans hvalue')
  exact hdescribes.unique hdescribes'

section

variable [PatternEngine]

/-- **A text loads as its draft is built.** -/
structure LoadsAsBuilt (text : String) (draft : Draft) : Prop where
  /-- With comments of those delimiters and the last entries of the draft, in any order, building
  gives the same grammar or the same error. -/
  built : ∀ comments kept, commentsOf draft.delimiters = .ok comments →
    KeepsLast draft.entries kept → ofDocument text = ofEntries kept draft.start comments
  /-- An empty delimiter makes the document malformed, whatever its rules and start symbol. -/
  improper : (∃ delimiter ∈ draft.delimiters, IsImproper delimiter) →
    commentsOf draft.delimiters = .error .emptyDelimiter ∧
      ofDocument text = .error .malformedDocument
  /-- There is nothing else that can be wrong with the comments. -/
  proper : (∀ delimiter ∈ draft.delimiters, ¬ IsImproper delimiter) →
    ∃ comments, commentsOf draft.delimiters = .ok comments
  /-- A grammar that is loaded has the start symbol of the draft, comments of its delimiters in
  their order, and for every name the last entry. -/
  loaded : ∀ grammar, ofDocument text = .ok grammar →
    grammar.start = draft.start ∧ delimitersOf grammar.comments = draft.delimiters ∧
      ∀ name expansions, grammar.rules.get? name = some expansions ↔
        (draft.entries.filter (·.1 = name)).getLast? = some (name, expansions)

theorem ofDocument_eq_malformed {text : String}
    (h : ∀ document, Document.ofText? text ≠ some document) :
    ofDocument text = .error .malformedDocument := by
  rw [ofDocument]
  split
  · rfl
  · next document hdocument => exact absurd hdocument (h document)

/-- **A text with proper delimiters is decoded**, and then only the order of the entries is left. -/
theorem Says.ofDocument_eq {text : String} {draft : Draft} (h : Says text draft)
    {comments : List Comment} (hdelimiters : delimitersOf comments = draft.delimiters) :
    ofDocument text = ofEntries (keepLast draft.entries) draft.start comments := by
  have hdocument : Document.ofText? text =
      some ⟨draft.start, comments, keepLast draft.entries⟩ :=
    ofText?_eq_some_iff.2 ⟨draft.entries, rfl, hdelimiters ▸ h⟩
  rw [ofDocument, hdocument]

/-- **A text with an improper delimiter is malformed**: a decoded document would have comments with
the very same delimiters. -/
theorem Says.ofDocument_eq_malformed {text : String} {draft : Draft} (h : Says text draft)
    (himproper : ∃ delimiter ∈ draft.delimiters, IsImproper delimiter) :
    ofDocument text = .error .malformedDocument := by
  refine Grammar.ofDocument_eq_malformed fun document hdocument => ?_
  obtain ⟨entries, -, hsays⟩ := ofText?_eq_some_iff.1 hdocument
  obtain ⟨delimiter, hmem, himproper⟩ := himproper
  rw [h.unique hsays] at hmem
  exact not_isImproper hmem himproper

theorem Says.loadsAsBuilt {text : String} {draft : Draft} (h : Says text draft) :
    LoadsAsBuilt text draft := by
  rcases commentsOf_cases draft.delimiters with
    ⟨comments, hcomments, hdelimiters⟩ | ⟨herror, himproper⟩
  · have hdocument := h.ofDocument_eq hdelimiters
    refine ⟨fun comments' kept hcomments' hkept => ?_, ?_, fun _ => ⟨comments, hcomments⟩,
      fun grammar hgrammar => ?_⟩
    · obtain rfl := Except.ok.inj (hcomments.symm.trans hcomments')
      rw [hdocument, ofEntries, ofEntries, hkept.ofEntries_eq]
    · rintro ⟨delimiter, hmem, himproper⟩
      exact absurd himproper (not_isImproper (hdelimiters ▸ hmem))
    · obtain ⟨hrules, hstart, rfl⟩ := ofEntries_eq_ok_iff.1 (hdocument.symm.trans hgrammar)
      refine ⟨hstart, hdelimiters, fun name expansions => ?_⟩
      rw [(Rules.ofEntries_eq_ok_iff.1 hrules).2,
        Rules.expansionsOf_eq_some_iff (keepsLast_keepLast _).once]
      exact mem_keepLast_iff
  · have hmalformed := h.ofDocument_eq_malformed himproper
    refine ⟨fun comments kept hcomments => ?_, fun _ => ⟨herror, hmalformed⟩, fun hproper => ?_,
      fun grammar hgrammar => ?_⟩
    · cases herror.symm.trans hcomments
    · obtain ⟨delimiter, hmem, himproper⟩ := himproper
      exact absurd himproper (hproper delimiter hmem)
    · cases hmalformed.symm.trans hgrammar

/-- **Loading is building.** A text that says a draft loads as the draft is built, from its last
entries in any order; every other text is malformed; and no grammar, loaded or built, has a comment
with an empty delimiter. -/
theorem loading_is_building (text : String) :
    (∀ draft, Says text draft → LoadsAsBuilt text draft) ∧
    ((∀ draft, ¬ Says text draft) → ofDocument text = .error .malformedDocument) ∧
    ∀ grammar : Grammar, ∀ comment ∈ grammar.comments,
      comment.opening ≠ "" ∧ comment.closing ≠ some "" := by
  refine ⟨fun draft h => h.loadsAsBuilt, fun hnone => ?_, fun grammar comment _ =>
    ⟨comment.opening_ne, comment.closing_ne⟩⟩
  refine ofDocument_eq_malformed fun document hdocument => ?_
  obtain ⟨entries, -, hsays⟩ := ofText?_eq_some_iff.1 hdocument
  exact hnone _ hsays

end

/-- A document of the grammar of rows of words, with an entry that does not count. -/
def repeatedDocument : String :=
  "\x7b\"comments\": [\x7b\"start\": \"/*\", \"end\": \"*/\"\x7d], \"rules\": " ++
    "\x7b\"Word\": [[\"c\"]], \"Row\": [[\"Word\", \"Row\"], []], " ++
    "\"Word\": [[\"a\"], [\"b\"]]\x7d, \"start\": \"Row\"\x7d"

/-- What it says. -/
def repeatedDraft : Draft where
  start := some "Row"
  delimiters := [("/*", some "*/")]
  entries := [("Word", [⟨["c"]⟩]), ("Row", [⟨["Word", "Row"]⟩, ⟨[]⟩]), ("Word", [⟨["a"]⟩, ⟨["b"]⟩])]

theorem says_repeatedDraft : Says repeatedDocument repeatedDraft := by
  refine ⟨.object [
    (some "comments", .array [.object [(some "start", .string (some "/*")),
      (some "end", .string (some "*/"))]]),
    (some "rules", .object [
      (some "Word", .array [.array [.string (some "c")]]),
      (some "Row", .array [.array [.string (some "Word"), .string (some "Row")], .array []]),
      (some "Word", .array [.array [.string (some "a")], .array [.string (some "b")]])]),
    (some "start", .string (some "Row"))], by cbv, ?_⟩
  have hcomment : IsComment (.object [(some "start", .string (some "/*")),
      (some "end", .string (some "*/"))]) ("/*", some "*/") :=
    .object (by simp) rfl (.string "/*") (.present rfl (.text "*/"))
  refine .object (by simp [memberNames]) (.present rfl (.text "Row"))
    (.present rfl (.array (.cons hcomment .nil))) rfl (.object ?_)
  exact (Json.mapM_eq_some_iff fun _ _ => rule?_eq_some_iff).1 rfl

theorem loading_is_building_repeatedDocument :
    Says repeatedDocument repeatedDraft ∧
      KeepsLast repeatedDraft.entries
        [("Word", [⟨["a"]⟩, ⟨["b"]⟩]), ("Row", [⟨["Word", "Row"]⟩, ⟨[]⟩])] ∧
      ofDocument repeatedDocument = .ok rows := by
  have hkept : KeepsLast repeatedDraft.entries
      [("Word", [⟨["a"]⟩, ⟨["b"]⟩]), ("Row", [⟨["Word", "Row"]⟩, ⟨[]⟩])] :=
    keepsLast_iff_perm.2 (by decide)
  refine ⟨says_repeatedDraft, hkept, ?_⟩
  obtain ⟨hloads, -⟩ := loading_is_building repeatedDocument
  rw [(hloads _ says_repeatedDraft).built rows.comments _ (by cbv) hkept]
  exact ofEntries_eq_ok_iff.2 ⟨by cbv, rfl, rfl⟩

end Grammar

end OrderedChoice
