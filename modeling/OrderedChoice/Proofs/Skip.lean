import OrderedChoice.Parse.Skip
import OrderedChoice.Proofs.Place

/-!
# What skipping does

`skip` counts its rounds by the text that is left, which says nothing about what it does. Here it
is opened up once: `skip_eq` is the equation of the loop without a count, and `skip_induction` is
the induction along the comments that are skipped. What later proofs need follows from the two:

* `le_skipEnd`: skipping goes forward.
* `skip_skipEnd`: skipping again, from where skipping ended, gives the same outcome.

`skipFrom` says the same about offsets of a text.
-/

namespace OrderedChoice

/-! ### Comments take up text -/

theorem opened?_eq_some {comments : List Comment} {p body : Place} {comment : Comment}
    (h : opened? comments p = some (comment, body)) :
    comment ∈ comments ∧ p.skipText? comment.opening.toList = some body := by
  obtain ⟨candidate, hmem, hcandidate⟩ := List.exists_of_findSome?_eq_some h
  obtain ⟨place, hplace, hpair⟩ := Option.map_eq_some_iff.1 hcandidate
  rw [Prod.mk.injEq] at hpair
  obtain ⟨rfl, rfl⟩ := hpair
  exact ⟨hmem, hplace⟩

theorem opened?_le {comments : List Comment} {p body : Place} {comment : Comment}
    (h : opened? comments p = some (comment, body)) : p ≤ body :=
  Place.skipText?_le (opened?_eq_some h).2

/-- Opening a comment takes up a character at least. -/
theorem opened?_length_lt {comments : List Comment} {p body : Place} {comment : Comment}
    (h : opened? comments p = some (comment, body)) : body.rest.length < p.rest.length := by
  obtain ⟨rest, hrest, rfl⟩ := Option.map_eq_some_iff.1 (opened?_eq_some h).2
  have htext : p.rest = comment.opening.toList ++ rest := Text.dropPrefix?_eq_some hrest
  -- This is where the type of comments counts: no comment is opened by the empty text.
  have hne : comment.opening.toList ≠ [] := by
    intro hnil
    exact comment.opening_ne (String.toList_eq_nil_iff.1 hnil)
  have hpos : 0 < comment.opening.toList.length := List.length_pos_iff.2 hne
  change rest.length < p.rest.length
  rw [htext, List.length_append]
  omega

/-- Nothing opens at the end of a text. -/
theorem opened?_of_rest_nil {p : Place} (comments : List Comment) (h : p.rest = []) :
    opened? comments p = none := by
  cases hopened : opened? comments p with
  | none => rfl
  | some found =>
    have hlt := opened?_length_lt hopened
    rw [h] at hlt
    exact absurd hlt (Nat.not_lt_zero _)

theorem Comment.skipBody?_le {comment : Comment} {body next : Place}
    (h : comment.skipBody? body = some next) : body ≤ next := by
  rw [Comment.skipBody?] at h
  split at h
  · exact Place.findText?_le h
  · rw [← Option.some.inj h]
    exact Place.skipLine_le body.offset body.rest

theorem Place.skipBlanks_of_rest_nil {p : Place} (h : p.rest = []) : p.skipBlanks = p := by
  cases p
  subst h
  rfl

theorem Place.skipWhile_skipWhile (f : Char → Bool) (offset : Nat) (text : List Char) :
    skipWhile f (skipWhile f offset text).offset (skipWhile f offset text).rest =
      skipWhile f offset text := by
  induction text generalizing offset with
  | nil => rfl
  | cons c cs ih =>
    by_cases hc : f c = true
    · rw [skipWhile, if_pos hc]
      exact ih _
    · rw [skipWhile, if_neg hc]
      change skipWhile f offset (c :: cs) = _
      rw [skipWhile, if_neg hc]

/-- There is no white space left behind white space that has been skipped. -/
theorem Place.skipBlanks_skipBlanks (p : Place) : p.skipBlanks.skipBlanks = p.skipBlanks :=
  skipWhile_skipWhile Text.isBlank p.offset p.rest

/-- A round that does not end the skipping takes up a character at least. -/
theorem round_length_lt {comments : List Comment} {p body next : Place} {comment : Comment}
    (hopened : opened? comments p.skipBlanks = some (comment, body))
    (hbody : comment.skipBody? body = some next) : next.rest.length < p.rest.length := by
  have hnext := Place.length_rest_le (Comment.skipBody?_le hbody)
  have hopening := opened?_length_lt hopened
  have hblanks := Place.length_rest_le p.skipBlanks_le
  omega

/-! ### The loop without its count -/

/-- At the end of a text every count of rounds gives the same. -/
private theorem skipRounds_of_rest_nil (comments : List Comment) (rounds : List Char) {p : Place}
    (h : p.rest = []) : skipRounds comments rounds p = .ok p := by
  cases rounds with
  | nil => rfl
  | cons c rounds =>
    rw [skipRounds]
    simp only [Place.skipBlanks_of_rest_nil h, opened?_of_rest_nil comments h]

/-- **The count does not matter** if there is a round for each character that is left. -/
private theorem skipRounds_congr (comments : List Comment) {first second : List Char} {p : Place}
    (hfirst : p.rest.length ≤ first.length) (hsecond : p.rest.length ≤ second.length) :
    skipRounds comments first p = skipRounds comments second p := by
  -- The induction is on one of the counts; the other one is opened in step with it.
  induction first generalizing second p with
  | nil =>
    have hnil : p.rest = [] := List.length_eq_zero_iff.1 (Nat.le_zero.1 hfirst)
    rw [skipRounds_of_rest_nil comments [] hnil, skipRounds_of_rest_nil comments second hnil]
  | cons c first ih =>
    cases second with
    | nil =>
      have hnil : p.rest = [] := List.length_eq_zero_iff.1 (Nat.le_zero.1 hsecond)
      rw [skipRounds_of_rest_nil comments _ hnil, skipRounds_of_rest_nil comments [] hnil]
    | cons d second =>
      rw [skipRounds, skipRounds]
      cases hopened : opened? comments p.skipBlanks with
      | none => rfl
      | some found =>
        obtain ⟨comment, body⟩ := found
        cases hbody : comment.skipBody? body with
        | none => simp only [hbody]
        | some next =>
          -- Both counts have gone down by one, and so has, at least, the text.
          have hlt := round_length_lt hopened hbody
          simp only [hbody]
          rw [List.length_cons] at hfirst hsecond
          exact ih (by omega) (by omega)

/-- **Equation of skipping**: white space, then a comment if one opens, and so on. -/
theorem skip_eq (comments : List Comment) (p : Place) :
    skip comments p =
      match opened? comments p.skipBlanks with
      | none => .ok p.skipBlanks
      | some (comment, body) =>
        match comment.skipBody? body with
        | none => .error p.skipBlanks
        | some next => skip comments next := by
  cases hrest : p.rest with
  | nil =>
    rw [Place.skipBlanks_of_rest_nil hrest, opened?_of_rest_nil comments hrest, skip,
      skipRounds_of_rest_nil comments _ hrest]
  | cons c cs =>
    rw [skip, hrest, skipRounds]
    cases hopened : opened? comments p.skipBlanks with
    | none => rfl
    | some found =>
      obtain ⟨comment, body⟩ := found
      cases hbody : comment.skipBody? body with
      | none => simp only [hbody]
      | some next =>
        -- The rounds that are left and the rounds that `skip` would begin with both suffice.
        have hlt := round_length_lt hopened hbody
        simp only [hbody]
        rw [hrest, List.length_cons] at hlt
        exact skipRounds_congr comments (by omega) (Nat.le_refl _)

/-- **Induction along the comments that are skipped.** -/
theorem skip_induction (comments : List Comment) {motive : Place → Except Place Place → Prop}
    (stop : ∀ p, opened? comments p.skipBlanks = none → motive p (.ok p.skipBlanks))
    (unclosed : ∀ p comment body, opened? comments p.skipBlanks = some (comment, body) →
      comment.skipBody? body = none → motive p (.error p.skipBlanks))
    (comment : ∀ p comment body next, opened? comments p.skipBlanks = some (comment, body) →
      comment.skipBody? body = some next → motive next (skip comments next) →
      motive p (skip comments next))
    (p : Place) : motive p (skip comments p) := by
  -- The text that is left gets shorter with every comment.
  induction hn : p.rest.length using Nat.strongRecOn generalizing p with
  | _ n ih =>
    rw [skip_eq]
    cases hopened : opened? comments p.skipBlanks with
    | none => exact stop p hopened
    | some found =>
      obtain ⟨opener, body⟩ := found
      cases hbody : opener.skipBody? body with
      | none =>
        simp only [hbody]
        exact unclosed p opener body hopened hbody
      | some next =>
        have hlt : next.rest.length < n := hn ▸ round_length_lt hopened hbody
        simp only [hbody]
        exact comment p opener body next hopened hbody (ih _ hlt next rfl)

/-! ### Where skipping ends -/

/-- The place where skipping ends, with or without an error. -/
def skipEnd : Except Place Place → Place
  | .ok q => q
  | .error opening => opening

/-- **Skipping goes forward.** -/
theorem le_skipEnd (comments : List Comment) (p : Place) : p ≤ skipEnd (skip comments p) := by
  induction p using skip_induction comments with
  | stop p _ => exact p.skipBlanks_le
  | unclosed p comment body _ _ => exact p.skipBlanks_le
  | comment p comment body next hopened hbody ih =>
    calc p ≤ p.skipBlanks := p.skipBlanks_le
      _ ≤ body := opened?_le hopened
      _ ≤ next := Comment.skipBody?_le hbody
      _ ≤ skipEnd (skip comments next) := ih

/-- **Skipping is stable**: from where it ended it has the same outcome. -/
theorem skip_skipEnd (comments : List Comment) (p : Place) :
    skip comments (skipEnd (skip comments p)) = skip comments p := by
  induction p using skip_induction comments with
  | stop p hopened =>
    rw [skipEnd, skip_eq, Place.skipBlanks_skipBlanks, hopened]
  | unclosed p comment body hopened hbody =>
    rw [skipEnd, skip_eq, Place.skipBlanks_skipBlanks, hopened]
    simp only [hbody]
  | comment p comment body next _ _ ih => exact ih

theorem le_of_skip_ok {comments : List Comment} {p q : Place} (h : skip comments p = .ok q) :
    p ≤ q := by
  have hle := le_skipEnd comments p
  rwa [h] at hle

theorem le_of_skip_error {comments : List Comment} {p opening : Place}
    (h : skip comments p = .error opening) : p ≤ opening := by
  have hle := le_skipEnd comments p
  rwa [h] at hle

theorem skip_of_skip_ok {comments : List Comment} {p q : Place} (h : skip comments p = .ok q) :
    skip comments q = .ok q := by
  have hstable := skip_skipEnd comments p
  rwa [h] at hstable

/-! ### Offsets -/

/-- **Skips from an offset of a text.** The result is the offset where skipping ends. -/
def skipFrom (comments : List Comment) (text : List Char) (offset : Nat) : Except Nat Nat :=
  match skip comments (.ofOffset text offset) with
  | .ok q => .ok q.offset
  | .error opening => .error opening.offset

theorem skipFrom_of_skip_ok {comments : List Comment} {text : List Char} {p q : Place}
    (hp : p.At text) (h : skip comments p = .ok q) :
    skipFrom comments text p.offset = .ok q.offset := by
  rw [skipFrom, ← hp.eq_ofOffset, h]

theorem skipFrom_of_skip_error {comments : List Comment} {text : List Char} {p opening : Place}
    (hp : p.At text) (h : skip comments p = .error opening) :
    skipFrom comments text p.offset = .error opening.offset := by
  rw [skipFrom, ← hp.eq_ofOffset, h]

/-- Skipping from a boundary ends at a boundary. -/
theorem skip_of_skipFrom_ok {comments : List Comment} {text : List Char} {offset stop : Nat}
    (hoffset : Text.IsBoundary text offset) (h : skipFrom comments text offset = .ok stop) :
    skip comments (.ofOffset text offset) = .ok (.ofOffset text stop) ∧
      Text.IsBoundary text stop := by
  rw [skipFrom] at h
  split at h
  · next q hskip =>
    obtain rfl := Except.ok.inj h
    have hq : q.At text := (Place.at_ofOffset hoffset).of_le (le_of_skip_ok hskip)
    exact ⟨hq.eq_ofOffset ▸ hskip, hq.isBoundary⟩
  · cases h

theorem skip_of_skipFrom_error {comments : List Comment} {text : List Char} {offset opened : Nat}
    (h : skipFrom comments text offset = .error opened) :
    ∃ opening, skip comments (.ofOffset text offset) = .error opening := by
  rw [skipFrom] at h
  split at h
  · cases h
  · next opening hskip => exact ⟨opening, hskip⟩

end OrderedChoice
