import OrderedChoice.Grammar.Comment
import OrderedChoice.Parse.Place

/-!
# What stands between words

White space and comments stand between the words of a source text and mean nothing. They are
skipped in front of every symbol and at the end of the text. Comments are tried in the order in
which they are declared; a block comment that is not closed stops the skipping where it opens.
-/

namespace OrderedChoice

/-- **End of a comment** that has been opened, if it has one. A line comment always ends. -/
def Comment.skipBody? (comment : Comment) (body : Place) : Option Place :=
  match comment.closing with
  | some closing => Place.findText? closing.toList body.offset body.rest
  | none => some (Place.skipLine body.offset body.rest)

/-- The first comment that opens at a place, and the place behind its opening. -/
def opened? (comments : List Comment) (place : Place) : Option (Comment × Place) :=
  comments.findSome? fun comment =>
    (place.skipText? comment.opening.toList).map (comment, ·)

/-- Skips white space and comments. Each round but the last takes up a character, so the text
itself can count the rounds. -/
def skipRounds (comments : List Comment) : List Char → Place → Except Place Place
  | [], place => .ok place
  | _ :: rounds, place =>
    let place := place.skipBlanks
    match opened? comments place with
    | none => .ok place
    | some (comment, body) =>
      match comment.skipBody? body with
      | none => .error place
      | some next => skipRounds comments rounds next

/-- **Skips white space and comments.** The result is the place of the next character that means
something, or the end of the text; it is an error, with the place where a block comment opens, if
that comment is not closed. -/
def skip (comments : List Comment) (place : Place) : Except Place Place :=
  skipRounds comments place.rest place

end OrderedChoice
