import OrderedChoice.Json.Value
import OrderedChoice.Text.Numeral

/-!
# Reading JSON

A strict reader: nothing may come before or after the value but blanks, strings hold no control
characters, and numbers have no superfluous zeros. Each function reads from the front of a text
and gives back what it did not read.
-/

namespace OrderedChoice.Json

/-- **Blanks** between the parts of a value. -/
def isBlank (c : Char) : Bool := c = ' ' || c = '\t' || c = '\n' || c = '\r'

/-- What follows the blanks at the front of a text. -/
def skipBlanks (text : List Char) : List Char := text.dropWhile isBlank

/-! ### Strings -/

/-- **Part of a string**: a character, or a code unit of two bytes that is given by its number. -/
inductive Piece where
  | char (c : Char)
  | unit (code : Nat)

/-- The character that a letter stands for after a backslash. -/
def escaped? : Char → Option Char
  | '"' => some '"'
  | '\\' => some '\\'
  | '/' => some '/'
  | 'b' => some '\x08'
  | 'f' => some '\x0C'
  | 'n' => some '\n'
  | 'r' => some '\r'
  | 't' => some '\t'
  | _ => none

/-- **Parts of a string**, after its opening quote, and what follows its closing quote. -/
def pieces? : List Char → Option (List Piece × List Char)
  | [] => none
  | '"' :: rest => some ([], rest)
  | '\\' :: 'u' :: a :: b :: c :: d :: rest => do
    let code ← Text.hexNumber? [a, b, c, d]
    let (pieces, rest) ← pieces? rest
    return (.unit code :: pieces, rest)
  | '\\' :: c :: rest => do
    let c ← escaped? c
    let (pieces, rest) ← pieces? rest
    return (.char c :: pieces, rest)
  | c :: rest =>
    if c.toNat < 0x20 || c = '\\' then none
    else do
      let (pieces, rest) ← pieces? rest
      return (.char c :: pieces, rest)

/-- Whether a code unit is the first half of a pair. -/
def isHighUnit (code : Nat) : Bool := 0xD800 ≤ code && code ≤ 0xDBFF

/-- Whether a code unit is the second half of a pair. -/
def isLowUnit (code : Nat) : Bool := 0xDC00 ≤ code && code ≤ 0xDFFF

/-- **Text of the parts of a string**, if every half of a pair has its partner. -/
def textOf? : List Piece → Option (List Char)
  | [] => some []
  | .char c :: rest => (textOf? rest).map (c :: ·)
  | .unit high :: .unit low :: rest =>
    if isHighUnit high then
      if isLowUnit low then
        (textOf? rest).map (Char.ofNat (0x10000 + (high - 0xD800) * 0x400 + (low - 0xDC00)) :: ·)
      else none
    else if isLowUnit high then none
    else (textOf? (.unit low :: rest)).map (Char.ofNat high :: ·)
  | .unit code :: rest =>
    if isHighUnit code || isLowUnit code then none
    else (textOf? rest).map (Char.ofNat code :: ·)

/-- **String**, after its opening quote. -/
def string? (text : List Char) : Option (Option String × List Char) := do
  let (pieces, rest) ← pieces? text
  return ((textOf? pieces).map String.ofList, rest)

/-! ### Numbers -/

/-- What follows one digit or more. -/
def digits? (text : List Char) : Option (List Char) :=
  match text with
  | c :: rest => if c.isDigit then some (rest.dropWhile Char.isDigit) else none
  | [] => none

/-- What follows the whole part of a number: a zero, or digits that begin with another one. -/
def whole? : List Char → Option (List Char)
  | '0' :: rest => some rest
  | text => digits? text

/-- What follows the fraction of a number, if it has one. -/
def fraction? : List Char → Option (List Char)
  | '.' :: rest => digits? rest
  | text => some text

/-- What follows the sign of an exponent, if it has one. -/
def dropSign : List Char → List Char
  | '+' :: rest => rest
  | '-' :: rest => rest
  | text => text

/-- What follows the exponent of a number, if it has one. -/
def exponent? : List Char → Option (List Char)
  | 'e' :: rest => digits? (dropSign rest)
  | 'E' :: rest => digits? (dropSign rest)
  | text => some text

/-- **What follows a number.** A zero is not followed by a digit. -/
def number? (text : List Char) : Option (List Char) := do
  let text := match text with
    | '-' :: rest => rest
    | text => text
  let rest ← whole? text
  let rest ← match text, rest with
    | '0' :: _, c :: _ => if c.isDigit then none else some rest
    | _, _ => some rest
  exponent? (← fraction? rest)

/-! ### Values -/

/-- The text that follows a word at the front of a text. -/
def word? (word : List Char) (text : List Char) : Option (List Char) :=
  if word.isPrefixOf text then some (text.drop word.length) else none

mutual

/-- **Value at the front of a text.** Every step into a value reads a character, so the length of
the text bounds the steps; the same holds for items and members. -/
def value? : Nat → List Char → Option (Json × List Char)
  | 0, _ => none
  | bound + 1, text =>
    match skipBlanks text with
    | 'n' :: rest => do return (.null, ← word? ['u', 'l', 'l'] rest)
    | 't' :: rest => do return (.bool true, ← word? ['r', 'u', 'e'] rest)
    | 'f' :: rest => do return (.bool false, ← word? ['a', 'l', 's', 'e'] rest)
    | '"' :: rest => do
      let (text, rest) ← string? rest
      return (.string text, rest)
    | '[' :: rest =>
      match skipBlanks rest with
      | ']' :: rest => some (.array [], rest)
      | rest => do
        let (items, rest) ← items bound rest
        return (.array items, rest)
    | '{' :: rest =>
      match skipBlanks rest with
      | '}' :: rest => some (.object [], rest)
      | rest => do
        let (members, rest) ← members bound rest
        return (.object members, rest)
    | rest => do return (.number, ← number? rest)

/-- The items of an array up to its closing bracket. -/
def items : Nat → List Char → Option (List Json × List Char)
  | 0, _ => none
  | bound + 1, text => do
    let (item, rest) ← value? bound text
    match skipBlanks rest with
    | ']' :: rest => return ([item], rest)
    | ',' :: rest =>
      let (more, rest) ← items bound rest
      return (item :: more, rest)
    | _ => none

/-- The members of an object up to its closing brace. -/
def members : Nat → List Char → Option (List (Option String × Json) × List Char)
  | 0, _ => none
  | bound + 1, text =>
    match skipBlanks text with
    | '"' :: rest => do
      let (name, rest) ← string? rest
      match skipBlanks rest with
      | ':' :: rest =>
        let (value, rest) ← value? bound rest
        match skipBlanks rest with
        | '}' :: rest => return ([(name, value)], rest)
        | ',' :: rest =>
          let (more, rest) ← members bound rest
          return ((name, value) :: more, rest)
        | _ => none
      | _ => none
    | _ => none

end

/-- **Value of a JSON text**, if the text is one. -/
def ofText? (text : List Char) : Option Json :=
  match value? (2 * text.length + 2) text with
  | some (value, rest) => if (skipBlanks rest).isEmpty then some value else none
  | none => none

end OrderedChoice.Json
