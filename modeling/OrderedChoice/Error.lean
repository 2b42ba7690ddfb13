/-!
# Errors

What can go wrong around a parse: building a grammar, loading one and looking up parts of a tree.
A text that does not match a grammar is no error in this sense; its tree says what happened.
-/

namespace OrderedChoice

/-- **Causes of errors.** -/
inductive Error where
  /-- A rule has the empty name. -/
  | emptyNonterminal
  /-- The start symbol has no rule. -/
  | unknownStart (symbol : String)
  /-- A symbol that has to be a nonterminal is none. -/
  | noSuchNonterminal (symbol : String)
  /-- A terminal is no pattern. -/
  | invalidPattern (symbol : String)
  /-- A comment would start or end with the empty text. -/
  | emptyDelimiter
  /-- A node has no child with the name that is asked for. -/
  | missingChild (parent symbol : String)
  /-- A file cannot be read as text. -/
  | unreadable (path : String)
  /-- A text is no grammar document. -/
  | malformedDocument
  deriving DecidableEq

namespace Error

/-- **Message** of an error. -/
def message : Error → String
  | .emptyNonterminal => "Grammar error: nonterminal names must not be empty"
  | .unknownStart symbol => "Grammar error: start symbol '" ++ symbol ++ "' has no rules"
  | .noSuchNonterminal symbol => "Grammar error: '" ++ symbol ++ "' is not a nonterminal"
  | .invalidPattern symbol =>
    "Grammar error: terminal '" ++ symbol ++ "' is not a valid regular expression"
  | .emptyDelimiter => "Grammar error: comment delimiters must not be empty"
  | .missingChild parent symbol =>
    "Tree error: node '" ++ parent ++ "' has no child '" ++ symbol ++ "'"
  | .unreadable path => "Load error: failed to read '" ++ path ++ "'"
  | .malformedDocument => "Load error: malformed grammar document"

/-- **Code** by which the kind of an error can be looked up. -/
def code : Error → String
  | .emptyNonterminal => "sentential::grammar::empty_nonterminal"
  | .unknownStart _ => "sentential::grammar::unknown_start_symbol"
  | .noSuchNonterminal _ => "sentential::grammar::no_such_nonterminal"
  | .invalidPattern _ => "sentential::grammar::invalid_pattern"
  | .emptyDelimiter => "sentential::grammar::empty_comment_delimiter"
  | .missingChild _ _ => "sentential::tree::missing_child"
  | .unreadable _ => "sentential::load::io"
  | .malformedDocument => "sentential::load::format"

/-- **Advice** on how to avoid an error, if there is some. -/
def help : Error → Option String
  | .emptyNonterminal =>
    some "every key of the rule map names a nonterminal and needs at least one character"
  | .malformedDocument =>
    some "expected \x7b\"start\": ..., \"comments\": [...], \"rules\": \x7b\"S\": [[...], ...]\x7d\x7d"
  | _ => none

end Error

end OrderedChoice
