import OrderedChoice.Json.Reader
import OrderedChoice.Grammar.Basic

/-!
# Grammar documents

A grammar document is a JSON object with the members `rules`, `start` and `comments`, the last two
of which may be missing. Rules are an object with a list of lists of symbol names for each
nonterminal; of a repeated nonterminal the last one counts. A comment is an object with the members
`start` and `end`.

A document or a comment may also be an array of its members in a fixed order: start symbol,
comments and rules for a document, start and end for a comment.

* `Document.ofJson?` decodes a document, and `Grammar.ofDocument` loads a grammar from a text.
-/

namespace OrderedChoice

/-- **Grammar document.** -/
structure Document where
  /-- The start symbol, if there is one. -/
  start : Option String
  /-- The comments in the order of the text. -/
  comments : List Comment
  /-- The rules in the order of the text, each nonterminal once. -/
  rules : List RuleEntry

namespace Document

open Json (text? items? listOf? optional?)

/-- The values of the members with a name. -/
def membersNamed (name : String) (members : List (Option String × Json)) : List Json :=
  (members.filter (·.1 = some name)).map (·.2)

/-- The value of the member with a name, if it is there; no result if it is there twice. -/
def member? (name : String) (members : List (Option String × Json)) : Option (Option Json) :=
  match membersNamed name members with
  | [] => some none
  | [value] => some (some value)
  | _ => none

/-- The value of a member that may be missing. -/
def memberOr? {α : Type} (default : α) (decode : Json → Option α) (value : Option Json) :
    Option α :=
  match value with
  | none => some default
  | some value => decode value

/-! ### Comments -/

/-- A comment with the given delimiters, unless one of them is empty. -/
def commentOf? (opening : String) (closing : Option String) : Option Comment :=
  (Comment.ofDelimiters opening closing).toOption

/-- **Comment**, as an object or as an array. Members of other names do not count, but every name
has to be a text. -/
def comment? : Json → Option Comment
  | .object members => do
    if members.any (·.1.isNone) then none
    let opening ← (← member? "start" members).bind text?
    let closing ← memberOr? none (optional? text?) (← member? "end" members)
    commentOf? opening closing
  | .array [opening] => do commentOf? (← opening.text?) none
  | .array [opening, closing] => do commentOf? (← opening.text?) (← optional? text? closing)
  | _ => none

/-! ### Rules -/

/-- An expansion: a list of symbol names. -/
def expansion? (value : Json) : Option Expansion :=
  (listOf? text? value).map Expansion.mk

/-- The rule of one member of the rules. -/
def rule? : Option String × Json → Option RuleEntry
  | (some name, value) => (listOf? expansion? value).map (name, ·)
  | (none, _) => none

/-- The entries of a list, each name with its last entry. -/
def keepLast : List RuleEntry → List RuleEntry
  | [] => []
  | entry :: rest =>
    if rest.any (·.1 = entry.1) then keepLast rest else entry :: keepLast rest

/-- **Rules**, as an object. -/
def rules? : Json → Option (List RuleEntry)
  | .object members => (members.mapM rule?).map keepLast
  | _ => none

/-! ### Documents -/

/-- The names of the members of a document. -/
def memberNames : List String := ["start", "comments", "rules"]

/-- **Document of a JSON value.** An object has no members of other names. -/
def ofJson? : Json → Option Document
  | .object members => do
    if members.any (fun member => !member.1.any memberNames.contains) then none
    let start ← memberOr? none (optional? text?) (← member? "start" members)
    let comments ← memberOr? [] (listOf? comment?) (← member? "comments" members)
    let rules ← (← member? "rules" members).bind rules?
    return ⟨start, comments, rules⟩
  | .array [start, comments, rules] => do
    return ⟨← optional? text? start, ← listOf? comment? comments, ← rules? rules⟩
  | _ => none

/-- **Document of a text**, if the text is one. -/
def ofText? (text : String) : Option Document := (Json.ofText? text.toList).bind ofJson?

end Document

namespace Grammar

variable [PatternEngine]

/-- The grammar of a list of entries with comments and perhaps a start symbol. -/
def ofEntries (entries : List RuleEntry) (start : Option String) (comments : List Comment) :
    Except Error Grammar := do
  build (← Rules.ofEntries entries) start comments

/-- **Loads a grammar** from the text of a document. -/
def ofDocument (text : String) : Except Error Grammar :=
  match Document.ofText? text with
  | none => .error .malformedDocument
  | some document => ofEntries document.rules document.start document.comments

end Grammar

end OrderedChoice
