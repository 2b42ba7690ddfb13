import OrderedChoice.Proofs.FaultMeaning
import OrderedChoice.Proofs.LeadingText

/-!
# The gaps between words

What is skipped between two words is a gap: runs of white space and complete comments by turns,
beginning and ending with a run, which may be empty. A run is maximal, so a comment opens only where
no white space stands. Which comment it is depends on the order of declaration: it is the first one
whose opening comes next. A block comment goes on through the first occurrence of its closing behind
the opening, and a line comment through the first line feed behind it, or to the end of the text.

`Gap` says this in terms of texts alone: of first parts, of occurrences and of members. It knows
nothing of places or of rounds, and any delimiters will do. They may be parts of each other,
overlap, or hold blanks and line feeds; only where a run stands, the run comes first.

* `Place.skipBlanks_of_isRun`, `opened?_eq_some_iff` and `Comment.Takes.skipBody?_eq`: what the
  steps of a round do.
* `Gap.skip_eq`: skipping from the beginning of a gap is skipping from its end.
* `exists_gap`: skipping takes up a gap.
* `skipping_is_exact`: so skipping ends exactly behind a gap where nothing more opens, and an error
  is reported exactly behind a gap where a comment is not closed.
-/

namespace OrderedChoice

/-! ### Runs, comments and gaps -/

/-- **A text does not begin with white space.** -/
def NoBlankAhead (text : List Char) : Prop := ∀ c, text.head? = some c → Text.isBlank c = false

/-- **Run of white space** in front of a text: all the white space that there is. -/
structure IsRun (run rest : List Char) : Prop where
  /-- There is nothing else in it. -/
  blank : ∀ c ∈ run, Text.isBlank c = true
  /-- None is left behind it. -/
  maximal : NoBlankAhead rest

/-- **A comment opens a text**: of the comments whose opening the text begins with, it is the one
that is declared first. -/
def OpensFirst (comments : List Comment) (comment : Comment) (text : List Char) : Prop :=
  ∃ before after, comments = before ++ comment :: after ∧
    (∀ earlier ∈ before, ¬ earlier.opening.toList <+: text) ∧ comment.opening.toList <+: text

/-- **What a comment takes up behind its opening**, in front of the rest of a text. -/
inductive Comment.Takes (comment : Comment) : List Char → List Char → Prop where
  /-- A block comment goes on through the first occurrence of its closing. -/
  | block {closing : String} {inner rest : List Char} : comment.closing = some closing →
      (∀ other, other ++ closing.toList <+: (inner ++ closing.toList) ++ rest →
        inner.length ≤ other.length) →
      Takes comment (inner ++ closing.toList) rest
  /-- A line comment goes on through the first line feed. -/
  | line {inner rest : List Char} : comment.closing = none → '\n' ∉ inner →
      Takes comment (inner ++ ['\n']) rest
  /-- Without a line feed it goes on to the end of the text. -/
  | last {inner : List Char} : comment.closing = none → '\n' ∉ inner → Takes comment inner []

/-- **Gap in front of a text**: runs of white space and complete comments by turns. -/
inductive Gap (comments : List Comment) : List Char → List Char → Prop where
  | run {run rest : List Char} : IsRun run rest → Gap comments run rest
  | comment {comment : Comment} {run taken gap rest : List Char} :
      IsRun run (comment.opening.toList ++ (taken ++ (gap ++ rest))) →
      OpensFirst comments comment (comment.opening.toList ++ (taken ++ (gap ++ rest))) →
      comment.Takes taken (gap ++ rest) → Gap comments gap rest →
      Gap comments (run ++ (comment.opening.toList ++ (taken ++ gap))) rest

/-! ### White space -/

/-- White space is skipped up to the end of the run. -/
theorem Place.skipBlanks_of_isRun {run rest : List Char} (h : IsRun run rest) (offset : Nat) :
    (⟨offset, run ++ rest⟩ : Place).skipBlanks = ⟨offset + Text.byteLength run, rest⟩ := by
  change skipWhile Text.isBlank offset (run ++ rest) = _
  rw [skipWhile_append h.blank]
  cases rest with
  | nil => rfl
  | cons c cs =>
    have hc : ¬ Text.isBlank c = true := by
      rw [h.maximal c rfl]
      exact Bool.false_ne_true
    rw [skipWhile, if_neg hc]

/-- **Skipping white space takes up a run.** -/
theorem Place.exists_isRun (p : Place) :
    ∃ run, p.rest = run ++ p.skipBlanks.rest ∧ IsRun run p.skipBlanks.rest := by
  -- The run is what the library takes off the front of the text as long as it is white space.
  have hrun : IsRun (p.rest.takeWhile Text.isBlank) (p.rest.dropWhile Text.isBlank) := by
    refine ⟨fun c hc => List.mem_takeWhile_imp hc, fun c hc => ?_⟩
    have hhead := List.head?_dropWhile_not Text.isBlank p.rest
    rwa [hc] at hhead
  have hskip := skipBlanks_of_isRun hrun p.offset
  rw [List.takeWhile_append_dropWhile] at hskip
  refine ⟨p.rest.takeWhile Text.isBlank, ?_, ?_⟩
  · rw [hskip, List.takeWhile_append_dropWhile]
  · rw [hskip]
    exact hrun

/-! ### Openings -/

theorem Place.skipText?_append (mark rest : List Char) (offset : Nat) :
    (⟨offset, mark ++ rest⟩ : Place).skipText? mark =
      some ⟨offset + Text.byteLength mark, rest⟩ := by
  rw [skipText?, Text.dropPrefix?_append, Option.map_some]

/-- **The comment that is found is the first one that opens.** -/
theorem opened?_eq_some_iff {comments : List Comment} {p body : Place} {comment : Comment} :
    opened? comments p = some (comment, body) ↔
      OpensFirst comments comment p.rest ∧ p.skipText? comment.opening.toList = some body := by
  constructor
  · intro h
    have hbody := (opened?_eq_some h).2
    obtain ⟨before, found, after, hcomments, hfound, hbefore⟩ := List.findSome?_eq_some_iff.1 h
    obtain ⟨place, -, hpair⟩ := Option.map_eq_some_iff.1 hfound
    obtain ⟨rfl, -⟩ := Prod.mk.inj hpair
    refine ⟨⟨before, after, hcomments, fun earlier hearlier => ?_, ?_⟩, hbody⟩
    · exact Place.skipText?_eq_none_iff.1 (Option.map_eq_none_iff.1 (hbefore earlier hearlier))
    · by_contra hnot
      rw [Place.skipText?_eq_none_iff.2 hnot] at hbody
      cases hbody
  · rintro ⟨⟨before, after, rfl, hbefore, -⟩, hbody⟩
    refine List.findSome?_eq_some_iff.2
      ⟨before, comment, after, rfl, ?_, fun earlier hearlier => ?_⟩
    · rw [hbody, Option.map_some]
    · rw [Place.skipText?_eq_none_iff.2 (hbefore earlier hearlier), Option.map_none]

theorem opened?_eq_none_iff {comments : List Comment} {p : Place} :
    opened? comments p = none ↔ ∀ comment ∈ comments, ¬ comment.opening.toList <+: p.rest := by
  rw [opened?, List.findSome?_eq_none_iff]
  simp only [Option.map_eq_none_iff, Place.skipText?_eq_none_iff]

/-! ### Bodies of comments -/

/-- A text that occurs has a first occurrence. -/
theorem Text.exists_first_occurrence {mark text : List Char} (h : mark <:+: text) :
    ∃ inner rest, text = (inner ++ mark) ++ rest ∧
      ∀ other, other ++ mark <+: text → inner.length ≤ other.length := by
  classical
  obtain ⟨before, after, hoccurs⟩ := h
  have hex : ∃ n, ∃ inner : List Char, inner.length = n ∧ inner ++ mark <+: text :=
    ⟨before.length, before, rfl, after, hoccurs⟩
  -- Of all the occurrences, the one with the least text in front of it.
  obtain ⟨inner, hlength, rest, hrest⟩ := Nat.find_spec hex
  refine ⟨inner, rest, hrest.symm, fun other hother => ?_⟩
  rw [hlength]
  exact Nat.find_min' hex ⟨other, rfl, hother⟩

theorem Place.findText?_append_self (mark rest : List Char) (offset : Nat) :
    findText? mark offset (mark ++ rest) = some ⟨offset + Text.byteLength mark, rest⟩ := by
  have hskip := skipText?_append mark rest offset
  cases htext : mark ++ rest with
  | nil =>
    rw [htext] at hskip
    rw [findText?, hskip]
  | cons c cs =>
    rw [htext] at hskip
    rw [findText?, hskip]

/-- **A text is found where it occurs first.** -/
theorem Place.findText?_of_first {mark inner rest : List Char}
    (hfirst : ∀ other, other ++ mark <+: (inner ++ mark) ++ rest → inner.length ≤ other.length)
    (offset : Nat) :
    findText? mark offset ((inner ++ mark) ++ rest) =
      some ⟨offset + Text.byteLength (inner ++ mark), rest⟩ := by
  induction inner generalizing offset with
  | nil => exact findText?_append_self mark rest offset
  | cons c inner ih =>
    -- The mark does not come next, since its first occurrence is further on.
    have hhere : skipText? mark ⟨offset, c :: ((inner ++ mark) ++ rest)⟩ = none := by
      rw [skipText?_eq_none_iff]
      intro hmark
      exact absurd (hfirst [] hmark) (Nat.not_succ_le_zero _)
    -- Behind the first character, the first occurrence is the same one.
    have hlater : ∀ other, other ++ mark <+: (inner ++ mark) ++ rest →
        inner.length ≤ other.length := by
      intro other hother
      have hcons : (c :: other) ++ mark <+: (c :: inner ++ mark) ++ rest :=
        List.cons_prefix_cons.2 ⟨rfl, hother⟩
      exact Nat.le_of_succ_le_succ (hfirst (c :: other) hcons)
    change findText? mark offset (c :: ((inner ++ mark) ++ rest)) = _
    rw [findText?, hhere]
    change findText? mark (offset + c.utf8Size) ((inner ++ mark) ++ rest) = _
    rw [ih hlater, List.cons_append, Text.byteLength_cons, Nat.add_assoc]

/-- **A line ends with the first line feed.** -/
theorem Place.skipLine_append {inner : List Char} (hinner : '\n' ∉ inner) (offset : Nat)
    (rest : List Char) :
    skipLine offset (inner ++ rest) = skipLine (offset + Text.byteLength inner) rest := by
  induction inner generalizing offset with
  | nil => rfl
  | cons c inner ih =>
    rw [List.mem_cons, not_or] at hinner
    rw [List.cons_append, skipLine, if_neg (Ne.symm hinner.1), ih hinner.2, Text.byteLength_cons,
      Nat.add_assoc]

/-- What a comment takes up is skipped. -/
theorem Comment.Takes.skipBody?_eq {comment : Comment} {taken rest : List Char}
    (h : comment.Takes taken rest) (offset : Nat) :
    comment.skipBody? ⟨offset, taken ++ rest⟩ = some ⟨offset + Text.byteLength taken, rest⟩ := by
  rw [skipBody?]
  cases h with
  | block hclosing hfirst =>
    rw [hclosing]
    exact Place.findText?_of_first hfirst offset
  | @line inner _ hclosing hinner =>
    rw [hclosing]
    change some (Place.skipLine offset ((inner ++ ['\n']) ++ rest)) = _
    rw [List.append_assoc, Place.skipLine_append hinner, Text.byteLength_append, ← Nat.add_assoc]
    rfl
  | last hclosing hinner =>
    rw [hclosing]
    change some (Place.skipLine offset (taken ++ [])) = _
    rw [Place.skipLine_append hinner]
    rfl

/-- **A comment that is skipped takes something up.** -/
theorem Comment.exists_takes {comment : Comment} {body next : Place}
    (h : comment.skipBody? body = some next) :
    ∃ taken, body.rest = taken ++ next.rest ∧ comment.Takes taken next.rest := by
  -- It suffices to divide the body somehow: the comment is skipped up to where it is divided.
  have hdivides : ∃ taken rest, body.rest = taken ++ rest ∧ comment.Takes taken rest := by
    cases hclosing : comment.closing with
    | some closing =>
      have hoccurs : closing.toList <:+: body.rest := by
        by_contra hnot
        rw [skipBody?, hclosing] at h
        change Place.findText? _ _ _ = _ at h
        rw [Place.findText?_eq_none_iff.2 hnot] at h
        cases h
      obtain ⟨inner, rest, hrest, hfirst⟩ := Text.exists_first_occurrence hoccurs
      rw [hrest] at hfirst
      exact ⟨_, rest, hrest, .block hclosing hfirst⟩
    | none =>
      by_cases hfeed : '\n' ∈ body.rest
      · obtain ⟨inner, rest, hrest, hinner⟩ := List.eq_append_cons_of_mem hfeed
        refine ⟨inner ++ ['\n'], rest, ?_, .line hclosing hinner⟩
        rw [hrest, List.append_assoc]
        rfl
      · exact ⟨body.rest, [], (List.append_nil _).symm, .last hclosing hfeed⟩
  obtain ⟨taken, rest, hrest, htakes⟩ := hdivides
  have hskip := htakes.skipBody?_eq body.offset
  rw [← hrest, h] at hskip
  rw [Option.some.inj hskip]
  exact ⟨taken, hrest, htakes⟩

/-! ### Gaps -/

theorem Gap.noBlankAhead {comments : List Comment} {gap rest : List Char}
    (h : Gap comments gap rest) : NoBlankAhead rest := by
  induction h with
  | run hrun => exact hrun.maximal
  | comment _ _ _ _ ih => exact ih

/-- Where no white space stands, none is skipped. -/
theorem Place.skipBlanks_of_noBlankAhead {p : Place} (h : NoBlankAhead p.rest) :
    p.skipBlanks = p := by
  have hrun : IsRun [] p.rest := ⟨fun _ hc => absurd hc List.not_mem_nil, h⟩
  exact skipBlanks_of_isRun hrun p.offset

/-- **Skipping from the beginning of a gap is skipping from its end.** -/
theorem Gap.skip_eq {comments : List Comment} {gap rest : List Char} (h : Gap comments gap rest)
    (offset : Nat) :
    skip comments ⟨offset, gap ++ rest⟩ =
      skip comments ⟨offset + Text.byteLength gap, rest⟩ := by
  induction h generalizing offset with
  | @run run rest hrun =>
    rw [OrderedChoice.skip_eq, Place.skipBlanks_of_isRun hrun,
      OrderedChoice.skip_eq comments ⟨_, rest⟩, Place.skipBlanks_of_noBlankAhead hrun.maximal]
  | @comment comment run taken gap rest hrun hopens htakes _ ih =>
    -- One round takes up the run and the comment; the others are those of the shorter gap.
    have hopened := opened?_eq_some_iff.2 ⟨hopens,
      Place.skipText?_append _ (taken ++ (gap ++ rest)) (offset + Text.byteLength run)⟩
    simp only [List.append_assoc]
    rw [OrderedChoice.skip_eq, Place.skipBlanks_of_isRun hrun, hopened]
    simp only [htakes.skipBody?_eq]
    rw [ih]
    simp only [Text.byteLength_append, Nat.add_assoc]

/-- **Skipping takes up a gap.** -/
theorem exists_gap (comments : List Comment) (p : Place) :
    ∃ gap, p.rest = gap ++ (skipEnd (skip comments p)).rest ∧
      Gap comments gap (skipEnd (skip comments p)).rest := by
  have hrun : ∀ p : Place, ∃ gap, p.rest = gap ++ p.skipBlanks.rest ∧
      Gap comments gap p.skipBlanks.rest := by
    intro p
    obtain ⟨run, hrest, hrun⟩ := p.exists_isRun
    exact ⟨run, hrest, .run hrun⟩
  induction p using skip_induction comments with
  | stop p _ => exact hrun p
  | unclosed p comment body _ _ => exact hrun p
  | comment p comment body next hopened hbody ih =>
    obtain ⟨gap, hnext, hgap⟩ := ih
    -- The text is cut three times in this round: behind the run, the opening and the comment.
    obtain ⟨run, hrest, hrun⟩ := p.exists_isRun
    obtain ⟨hopens, hopening⟩ := opened?_eq_some_iff.1 hopened
    obtain ⟨rest, hdrop, rfl⟩ := Option.map_eq_some_iff.1 hopening
    have hopening := Text.dropPrefix?_eq_some hdrop
    obtain ⟨taken, hbody, htakes⟩ := Comment.exists_takes hbody
    change rest = _ at hbody
    rw [hbody, hnext] at hopening
    rw [hopening] at hrest hrun hopens
    rw [hnext] at htakes
    refine ⟨_, ?_, .comment hrun hopens htakes hgap⟩
    rw [hrest]
    simp only [List.append_assoc]

/-! ### Where a gap ends -/

/-- **Nothing opens where skipping has ended.** -/
theorem not_opened_of_skip_ok {comments : List Comment} {p q : Place}
    (h : skip comments p = .ok q) : ∀ comment ∈ comments, ¬ comment.opening.toList <+: q.rest := by
  revert h
  induction p using skip_induction comments with
  | stop p hopened =>
    intro h
    rw [← Except.ok.inj h]
    exact opened?_eq_none_iff.1 hopened
  | unclosed p comment body _ _ => exact nofun
  | comment p comment body next _ _ ih => exact ih

theorem skip_of_not_opened {comments : List Comment} {q : Place} (hblank : NoBlankAhead q.rest)
    (hopened : ∀ comment ∈ comments, ¬ comment.opening.toList <+: q.rest) :
    skip comments q = .ok q := by
  rw [skip_eq, Place.skipBlanks_of_noBlankAhead hblank, opened?_eq_none_iff.2 hopened]

theorem skip_of_unclosed {comments : List Comment} {q : Place} (hblank : NoBlankAhead q.rest)
    (hunclosed : Unclosed comments q.rest) : skip comments q = .error q := by
  obtain ⟨before, comment, after, closing, rest, hcomments, hbefore, hrest, hclosing, hoccurs⟩ :=
    hunclosed
  have hopens : OpensFirst comments comment q.rest :=
    ⟨before, after, hcomments, hbefore, rest, hrest.symm⟩
  have hopening := Place.skipText?_append comment.opening.toList rest q.offset
  rw [← hrest] at hopening
  have hbody : comment.skipBody? ⟨q.offset + Text.byteLength comment.opening.toList, rest⟩ =
      none := by
    rw [Comment.skipBody?, hclosing]
    exact Place.findText?_eq_none_iff.2 hoccurs
  rw [skip_eq, Place.skipBlanks_of_noBlankAhead hblank, opened?_eq_some_iff.2 ⟨hopens, hopening⟩]
  simp only [hbody]

/-! ### Gaps of a text -/

/-- **A gap leads from one offset of a text to another.** -/
structure GapBetween (comments : List Comment) (text : List Char) (start stop : Nat) : Prop where
  isBoundary : Text.IsBoundary text stop
  le : start ≤ stop
  gap : Gap comments (Text.slice start stop text) (Text.dropBytes stop text)

theorem Place.At.slice_eq {text taken : List Char} {p q : Place} (hp : p.At text) (hle : p ≤ q)
    (hrest : p.rest = taken ++ q.rest) : Text.slice p.offset q.offset text = taken :=
  List.append_cancel_right ((hp.slice_append hle).trans hrest)

/-- Skipping has the same outcome at both ends of a gap. -/
theorem GapBetween.skip_eq {comments : List Comment} {text : List Char} {start stop : Nat}
    (h : GapBetween comments text start stop) (hstart : Text.IsBoundary text start) :
    skip comments (.ofOffset text start) = skip comments (.ofOffset text stop) := by
  have hp := Place.at_ofOffset hstart
  have hle := hp.le_of_offset_le (Place.at_ofOffset h.isBoundary) h.le
  obtain ⟨taken, hrest, hoffset⟩ := Place.le_def.1 hle
  -- The gap is the text between the two places, which is cut off and counted by its bytes.
  have hgap := h.gap
  rw [show Text.slice start stop text = taken from hp.slice_eq hle hrest] at hgap
  calc skip comments (.ofOffset text start)
      = skip comments ⟨start, taken ++ Text.dropBytes stop text⟩ :=
        congrArg (fun rest => skip comments ⟨start, rest⟩) hrest
    _ = skip comments ⟨start + Text.byteLength taken, Text.dropBytes stop text⟩ :=
        hgap.skip_eq start
    _ = skip comments (.ofOffset text stop) :=
        congrArg (fun offset => skip comments ⟨offset, Text.dropBytes stop text⟩) hoffset.symm

/-- Skipping leads over a gap, with or without an error at its end. -/
theorem gapBetween_skipEnd (comments : List Comment) {text : List Char} {p : Place}
    (hp : p.At text) : GapBetween comments text p.offset (skipEnd (skip comments p)).offset := by
  have hle := le_skipEnd comments p
  have hend : (skipEnd (skip comments p)).At text := hp.of_le hle
  obtain ⟨gap, hrest, hgap⟩ := exists_gap comments p
  refine ⟨hend.isBoundary, Place.offset_le hle, ?_⟩
  rw [hp.slice_eq hle hrest, hend.dropBytes]
  exact hgap

/-- **Skipping ends behind a gap**, where neither white space nor the opening of a comment
stands. -/
theorem skipFrom_eq_ok_iff {comments : List Comment} {text : List Char} {start stop : Nat}
    (hstart : Text.IsBoundary text start) :
    skipFrom comments text start = .ok stop ↔
      GapBetween comments text start stop ∧ NoBlankAhead (Text.dropBytes stop text) ∧
        ∀ comment ∈ comments, ¬ comment.opening.toList <+: Text.dropBytes stop text := by
  constructor
  · intro h
    obtain ⟨hskip, -⟩ := skip_of_skipFrom_ok hstart h
    have hgap := gapBetween_skipEnd comments (Place.at_ofOffset hstart)
    rw [hskip] at hgap
    exact ⟨hgap, hgap.gap.noBlankAhead, not_opened_of_skip_ok hskip⟩
  · rintro ⟨hgap, hblank, hopened⟩
    rw [skipFrom, hgap.skip_eq hstart, skip_of_not_opened hblank hopened]
    rfl

/-- **Skipping stops behind a gap**, where a comment is not closed. -/
theorem skipFrom_eq_error_iff {comments : List Comment} {text : List Char} {start opened : Nat}
    (hstart : Text.IsBoundary text start) :
    skipFrom comments text start = .error opened ↔
      GapBetween comments text start opened ∧ NoBlankAhead (Text.dropBytes opened text) ∧
        Unclosed comments (Text.dropBytes opened text) := by
  have hp := Place.at_ofOffset hstart
  constructor
  · intro h
    obtain ⟨opening, hskip⟩ := skip_of_skipFrom_error h
    have hopening : opening.At text := hp.of_le (le_of_skip_error hskip)
    have hgap := gapBetween_skipEnd comments hp
    rw [hskip] at hgap
    obtain rfl : opening.offset = opened :=
      Except.error.inj ((skipFrom_of_skip_error hp hskip).symm.trans h)
    refine ⟨hgap, hgap.gap.noBlankAhead, ?_⟩
    rw [hopening.dropBytes]
    exact (unclosed_of_skip_error hskip).2
  · rintro ⟨hgap, hblank, hunclosed⟩
    rw [skipFrom, hgap.skip_eq hstart, skip_of_unclosed hblank hunclosed]
    rfl

/-- **Run of the skipping**, round by round and without a count: white space, and then the comment
that opens behind it. A run has finitely many rounds. -/
inductive Skips (comments : List Comment) : Place → Except Place Place → Prop where
  | stop {p : Place} : opened? comments p.skipBlanks = none → Skips comments p (.ok p.skipBlanks)
  | unclosed {p body : Place} {comment : Comment} :
      opened? comments p.skipBlanks = some (comment, body) → comment.skipBody? body = none →
      Skips comments p (.error p.skipBlanks)
  | comment {p body next : Place} {comment : Comment} {outcome : Except Place Place} :
      opened? comments p.skipBlanks = some (comment, body) → comment.skipBody? body = some next →
      Skips comments next outcome → Skips comments p outcome

/-- **There is one run from every place**, and its outcome is that of skipping. -/
theorem skips_iff {comments : List Comment} {p : Place} {outcome : Except Place Place} :
    Skips comments p outcome ↔ skip comments p = outcome := by
  constructor
  · intro h
    induction h with
    | stop hopened => rw [skip_eq, hopened]
    | unclosed hopened hbody =>
      rw [skip_eq, hopened]
      simp only [hbody]
    | comment hopened hbody _ ih =>
      rw [skip_eq, hopened]
      simp only [hbody]
      exact ih
  · rintro rfl
    induction p using skip_induction comments with
    | stop p hopened => exact .stop hopened
    | unclosed p comment body hopened hbody => exact .unclosed hopened hbody
    | comment p comment body next hopened hbody ih => exact .comment hopened hbody ih

/-- **Skipping is exact.** From every boundary of a text the rounds come to an end. Skipping ends at
an offset without an error exactly if a gap leads there and neither white space nor the opening of a
comment stands there, and with an error exactly if a gap leads there, no white space stands there
and the comment that opens there is not closed. Either way the offset is no smaller, and skipping
from it has the same outcome. -/
theorem skipping_is_exact (comments : List Comment) {text : List Char} {start : Nat}
    (hstart : Text.IsBoundary text start) :
    (∀ outcome, Skips comments (.ofOffset text start) outcome ↔
      skip comments (.ofOffset text start) = outcome) ∧
    (∀ stop, skipFrom comments text start = .ok stop ↔
      GapBetween comments text start stop ∧ NoBlankAhead (Text.dropBytes stop text) ∧
        ∀ comment ∈ comments, ¬ comment.opening.toList <+: Text.dropBytes stop text) ∧
    (∀ opened, skipFrom comments text start = .error opened ↔
      GapBetween comments text start opened ∧ NoBlankAhead (Text.dropBytes opened text) ∧
        Unclosed comments (Text.dropBytes opened text)) ∧
    ∀ stop, skipFrom comments text start = .ok stop ∨ skipFrom comments text start = .error stop →
      start ≤ stop ∧ skipFrom comments text stop = skipFrom comments text start := by
  refine ⟨fun _ => skips_iff, fun _ => skipFrom_eq_ok_iff hstart,
    fun _ => skipFrom_eq_error_iff hstart, fun stop houtcome => ?_⟩
  have hgap : GapBetween comments text start stop := by
    rcases houtcome with hok | herror
    · exact ((skipFrom_eq_ok_iff hstart).1 hok).1
    · exact ((skipFrom_eq_error_iff hstart).1 herror).1
  refine ⟨hgap.le, ?_⟩
  rw [skipFrom, skipFrom, hgap.skip_eq hstart]

/-- A block comment whose opening and closing overlap, and a line comment that opens like it. -/
def brackets : List Comment :=
  [⟨"(*", some "*)", by decide, by decide⟩,
    ⟨"(", none, by decide, (Option.some_ne_none _).symm⟩]

theorem skipping_is_exact_brackets :
    Text.IsBoundary "x (*) é *) (y\n (*)".toList 1 ∧
      skipFrom brackets "x (*) é *) (y\n (*)".toList 1 = .error 16 ∧
      GapBetween brackets "x (*) é *) (y\n (*)".toList 1 16 ∧
      Unclosed brackets "(*)".toList ∧
      skipFrom brackets "x (*) é *) (y\n (*)".toList 16 = .error 16 := by
  have hstart : Text.IsBoundary "x (*) é *) (y\n (*)".toList 1 :=
    ⟨"x".toList, " (*) é *) (y\n (*)".toList, by decide, by decide⟩
  have hskip : skipFrom brackets "x (*) é *) (y\n (*)".toList 1 = .error 16 := by cbv
  have hdrop : Text.dropBytes 16 "x (*) é *) (y\n (*)".toList = "(*)".toList := by cbv
  obtain ⟨-, -, herror, hstable⟩ := skipping_is_exact brackets hstart
  obtain ⟨hgap, -, hunclosed⟩ := (herror 16).1 hskip
  obtain ⟨-, hagain⟩ := hstable 16 (.inr hskip)
  exact ⟨hstart, hskip, hgap, hdrop ▸ hunclosed, hagain.trans hskip⟩

end OrderedChoice
