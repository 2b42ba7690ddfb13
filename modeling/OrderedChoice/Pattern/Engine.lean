/-!
# Pattern engines

A pattern is what a terminal symbol stands for: a regular expression that is matched at the front
of a text. Which texts are regular expressions and what they match is the business of a pattern
engine. A grammar compiles an expression when it is built, and a parse asks how much of a text it
matches; they know nothing else of patterns.

Nothing is asked of an engine, so what is proved of grammars and parses holds with every engine.

* `Pattern.ofText?` compiles the pattern of a name, and `Pattern.matchLength?` runs it.
-/

namespace OrderedChoice

/-- **Pattern engine.** -/
class PatternEngine where
  /-- Compiled expressions. -/
  Compiled : Type
  /-- Compiles a regular expression as it stands, if the text is one. -/
  compile? : List Char → Option Compiled
  /-- The length of the match at the front of a text, in characters. -/
  matchLength? : Compiled → List Char → Option Nat

variable [PatternEngine]

/-- **Compiled pattern.** -/
structure Pattern where
  /-- What the engine has compiled. -/
  compiled : PatternEngine.Compiled

namespace Pattern

/-- A pattern is read inside a group that is tied to the start of the text. The group holds the
whole pattern unless the pattern closes it by itself. -/
def anchored (text : List Char) : List Char :=
  '^' :: '(' :: '?' :: ':' :: text ++ [')']

/-- **Compiles a regular expression** as it stands, if the text is one. -/
def ofExpression? (text : List Char) : Option Pattern := (PatternEngine.compile? text).map mk

/-- **Compiles a pattern**, if the text is one. -/
def ofText? (text : List Char) : Option Pattern := ofExpression? (anchored text)

/-- **A pattern is compiled inside a group at the start of the text.** -/
theorem ofText?_eq_ofExpression? (name : String) :
    ofText? name.toList = ofExpression? ("^(?:" ++ name ++ ")").toList := by
  rw [ofText?, String.toList_append, String.toList_append]
  rfl

/-- **Length of the match at the front of a text**, in characters. -/
def matchLength? (pattern : Pattern) (text : List Char) : Option Nat :=
  PatternEngine.matchLength? pattern.compiled text

end Pattern

end OrderedChoice
