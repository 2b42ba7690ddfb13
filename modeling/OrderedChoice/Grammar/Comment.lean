import OrderedChoice.Error

/-!
# Comments

A comment is opened by a text. A block comment runs through the text that closes it; a line
comment has none and runs through the end of its line. Neither text is empty, which is part of the
type: a comment always takes up a character at least.
-/

namespace OrderedChoice

/-- **Kind of comment** that may stand between the words of a source text. -/
structure Comment where
  /-- The text that opens the comment. -/
  opening : String
  /-- The text that closes it, if it is a block comment. -/
  closing : Option String
  /-- A comment is not opened by the empty text. -/
  opening_ne : opening ≠ ""
  /-- A comment is not closed by the empty text. -/
  closing_ne : closing ≠ some ""
  deriving DecidableEq

namespace Comment

/-- **Comment with the given delimiters**, unless one of them is empty. -/
def ofDelimiters (opening : String) (closing : Option String) : Except Error Comment :=
  if hopening : opening = "" then .error .emptyDelimiter
  else if hclosing : closing = some "" then .error .emptyDelimiter
  else .ok ⟨opening, closing, hopening, hclosing⟩

/-- A comment that ends with its line. -/
def line (opening : String) : Except Error Comment := ofDelimiters opening none

/-- A comment that ends with a text of its own. -/
def block (opening closing : String) : Except Error Comment := ofDelimiters opening (some closing)

/-- Whether a comment ends with a text of its own. -/
def isBlock (comment : Comment) : Bool := comment.closing.isSome

end Comment

end OrderedChoice
