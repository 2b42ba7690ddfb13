import OrderedChoice.Text.Utf8
import OrderedChoice.Pattern.Reader.Basic

/-!
# Reading a pattern: escapes

What a backslash and the characters after it stand for: a literal, a class with a name or an
anchor. Letters and digits without a meaning of their own may not be escaped; every other ASCII
character may.
-/

namespace OrderedChoice.Pattern.Reader

/-- **Character given by its code**, after the letter that introduces it: in braces, or as a
number of digits that depends on the letter. -/
def hexLiteral (width : Nat) : Reader Literal := do
  advanceSkip
  if (← peek) = '{' then
    advanceSkip
    let digits ← takeWhile (· ≠ '}')
    let _ ← peek
    advanceSkip
    require (!digits.isEmpty)
    return ⟨← hexChar digits, false⟩
  else
    let digits ← takeExactly width
    return ⟨← hexChar digits, width == 2⟩

/-- The two sides of the first place where a text occurs in another. -/
def splitAround? (mark : List Char) : List Char → Option (List Char × List Char)
  | [] => none
  | c :: cs =>
    match Text.dropPrefix? mark (c :: cs) with
    | some rest => some ([], rest)
    | none => (splitAround? mark cs).map fun (before, after) => (c :: before, after)

/-- The class that the text between braces asks for: a name, or a property and a value with a
mark between them. The mark `!=` asks for the characters with any other value, so it negates the
class once, and the letter in front of the braces may negate it again. -/
def propertyNamed (text : List Char) : NamedClass :=
  match splitAround? ['!', '='] text with
  | some (property, value) => ⟨true, .propertyValue (String.ofList property) (String.ofList value)⟩
  | none =>
    match splitAround? [':'] text <|> splitAround? ['='] text with
    | some (property, value) =>
      ⟨false, .propertyValue (String.ofList property) (String.ofList value)⟩
    | none => ⟨false, .property (String.ofList text)⟩

/-- **Class of characters with a property**, after its letter. -/
def propertyClass (negated : Bool) : Reader NamedClass := do
  advanceSkip
  let c ← peek
  if c = '{' then
    advanceSkip
    let text ← takeWhile (· ≠ '}')
    let _ ← peek
    advance
    let named := propertyNamed text
    return { named with negated := negated != named.negated }
  else
    require (c ≠ '\\')
    advanceSkip
    return ⟨negated, .property (String.singleton c)⟩

/-- Characters that mean something in a pattern when they are not escaped. -/
def isMeta (c : Char) : Bool :=
  c ∈ ['\\', '.', '+', '*', '?', '(', ')', '|', '[', ']', '{', '}', '^', '$', '#', '&', '-', '~']

/-- Characters that stand for themselves when they are escaped. -/
def isEscapable (c : Char) : Bool :=
  isMeta c || (c.toNat < 0x80 && !c.isAlphanum && c ≠ '<' && c ≠ '>')

/-- Letters in the name of a word anchor. -/
def isAnchorChar (c : Char) : Bool := c.isAlpha || c = '-'

/-- **Word anchor** with a name in braces, after its letter. Braces with anything else in them
are left to be read as a count. -/
def wordAnchor : Reader Anchor := do
  let s ← get
  match s.rest with
  | '{' :: _ =>
    advanceSkip
    if isAnchorChar (← peek) then
      let name ← takeWhile isAnchorChar
      require ((← peek) = '}')
      advance
      match String.ofList name with
      | "start" => return .wordStart
      | "end" => return .wordEnd
      | "start-half" => return .wordStartHalf
      | "end-half" => return .wordEndHalf
      | _ => refuse
    else
      set s
      return .wordEdge
  | _ => return .wordEdge

/-- The literal that is one character. -/
def plain (c : Char) : Ast := .literal (.plain c)

/-- The class with a one-letter name. -/
def shorthand (negated : Bool) (kind : Shorthand) : Ast := .named ⟨negated, .shorthand kind⟩

/-- What an escaped character stands for on its own. -/
def escapedChar (c : Char) : Reader Ast := do
  advance
  if isEscapable c then
    return plain c
  else
    match c with
    | 'd' => return shorthand false .digit
    | 's' => return shorthand false .space
    | 'w' => return shorthand false .word
    | 'D' => return shorthand true .digit
    | 'S' => return shorthand true .space
    | 'W' => return shorthand true .word
    | 'a' => return plain '\x07'
    | 'f' => return plain '\x0C'
    | 't' => return plain '\t'
    | 'n' => return plain '\n'
    | 'r' => return plain '\r'
    | 'v' => return plain '\x0B'
    | 'A' => return .anchor .textStart
    | 'z' => return .anchor .textEnd
    | 'b' => return .anchor (← wordAnchor)
    | 'B' => return .anchor .notWordEdge
    | '<' => return .anchor .wordStart
    | '>' => return .anchor .wordEnd
    | _ => refuse

/-- **Escape**, from its backslash on. -/
def escape : Reader Ast := do
  advance
  let c ← peek
  match c with
  | 'x' => return .literal (← hexLiteral 2)
  | 'u' => return .literal (← hexLiteral 4)
  | 'U' => return .literal (← hexLiteral 8)
  | 'p' => return .named (← propertyClass false)
  | 'P' => return .named (← propertyClass true)
  | _ => escapedChar c

end OrderedChoice.Pattern.Reader
