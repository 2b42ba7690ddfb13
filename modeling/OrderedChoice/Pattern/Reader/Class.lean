import OrderedChoice.Pattern.Reader.Escape

/-!
# Reading a pattern: brackets

A class in brackets lists characters, ranges, classes with names and further brackets, and may
combine such lists with set operations, which group to the left.
-/

namespace OrderedChoice.Pattern

/-- A list of items with one more at its end. -/
def ClassBody.push : ClassBody → ClassBody → ClassBody
  | .empty, item => item
  | items, item => .union items item

namespace Reader

/-- **ASCII classes** by name. -/
def asciiSets : List (String × CharSet) :=
  let lower : CodeRange := ⟨0x61, 0x7A⟩
  let upper : CodeRange := ⟨0x41, 0x5A⟩
  let digit : CodeRange := ⟨0x30, 0x39⟩
  [("alnum", ⟨[digit, upper, lower]⟩),
    ("alpha", ⟨[upper, lower]⟩),
    ("ascii", ⟨[⟨0, 0x7F⟩]⟩),
    ("blank", ⟨[⟨0x9, 0x9⟩, ⟨0x20, 0x20⟩]⟩),
    ("cntrl", ⟨[⟨0, 0x1F⟩, ⟨0x7F, 0x7F⟩]⟩),
    ("digit", ⟨[digit]⟩),
    ("graph", ⟨[⟨0x21, 0x7E⟩]⟩),
    ("lower", ⟨[lower]⟩),
    ("print", ⟨[⟨0x20, 0x7E⟩]⟩),
    ("punct", ⟨[⟨0x21, 0x2F⟩, ⟨0x3A, 0x40⟩, ⟨0x5B, 0x60⟩, ⟨0x7B, 0x7E⟩]⟩),
    ("space", ⟨[⟨0x9, 0xD⟩, ⟨0x20, 0x20⟩]⟩),
    ("upper", ⟨[upper]⟩),
    ("word", ⟨[digit, upper, ⟨0x5F, 0x5F⟩, lower]⟩),
    ("xdigit", ⟨[digit, ⟨0x41, 0x46⟩, ⟨0x61, 0x66⟩]⟩)]

/-- The ASCII class at the front of a text, and what follows it. -/
def asciiClass? : List Char → Option (NamedClass × List Char)
  | '[' :: ':' :: text =>
    let (negated, text) :=
      match text with
      | '^' :: rest => (true, rest)
      | rest => (false, rest)
    match text.dropWhile (· ≠ ':') with
    | ':' :: ']' :: rest =>
      let name := String.ofList (text.takeWhile (· ≠ ':'))
      (asciiSets.lookup name).map fun set => (⟨negated, .ascii set⟩, rest)
    | _ => none
  | _ => none

/-- **Opening bracket**: whether the class is a complement, and the hyphens or the closing bracket
that stand for themselves because they come first. -/
def openBrackets : Reader (Bool × ClassBody) := do
  advanceSkip
  let negated := (← peek) = '^'
  if negated then
    advanceSkip
  let dashes ← takeWhile (· = '-')
  let c ← peek
  if dashes.isEmpty && c = ']' then
    advanceSkip
    let _ ← peek
    return (negated, .literal (.plain ']'))
  else
    return (negated, dashes.foldl (fun items d => items.push (.literal (.plain d))) .empty)

/-- One end of a range, or an item of its own. -/
def classPrimitive : Reader Ast := do
  let c ← peek
  if c = '\\' then
    escape
  else
    advance
    return plain c

/-- The character after the current one, beyond blanks and the mark of a comment if they are
skipped. -/
def lookBeyond : Reader (Option Char) := do
  let s ← get
  let next := s.rest.tail
  if s.verbose then
    match next.dropWhile Text.isBlank with
    | '#' :: comment => return (comment.dropWhile Text.isBlank).head? <|> next.head?
    | rest => return rest.head? <|> next.head?
  else
    return next.head?

/-- An item of a class: a range, or what stands alone. A hyphen before a closing bracket or before
another hyphen makes no range. -/
def classItem : Reader ClassBody := do
  let first ← classPrimitive
  skipBlanks
  let c ← peek
  let beyond ← lookBeyond
  if c ≠ '-' || beyond = some ']' || beyond = some '-' then
    match first with
    | .literal value => return .literal value
    | .named value => return .named value
    | _ => refuse
  else
    advanceSkip
    let second ← classPrimitive
    match first, second with
    | .literal lo, .literal hi =>
      require (lo.char ≤ hi.char)
      return .range lo hi
    | _, _ => refuse

/-- The set so far, when an operation waits for its right side. -/
def combinePending (pending : Option (SetOp × ClassBody)) (items : ClassBody) : ClassBody :=
  match pending with
  | none => items
  | some (op, left) => .combine op left items

/-- The set operation at the front of a text. -/
def setOp? : List Char → Option SetOp
  | '&' :: '&' :: _ => some .intersection
  | '-' :: '-' :: _ => some .difference
  | '~' :: '~' :: _ => some .symmetricDifference
  | _ => none

/-- **Contents of brackets** up to the closing one. Every round reads a character at least, so the
number of characters left bounds the rounds. -/
def classItems : Nat → Option (SetOp × ClassBody) → ClassBody → Reader ClassBody
  | 0, _, _ => refuse
  | bound + 1, pending, items => do
    skipBlanks
    let s ← get
    match s.rest with
    | '[' :: _ =>
      match asciiClass? s.rest with
      | some (value, rest) =>
        set { s with rest := rest }
        classItems bound pending (items.push (.named value))
      | none =>
        let (negated, first) ← openBrackets
        let body ← classItems bound none first
        classItems bound pending (items.push (.nested negated body))
    | ']' :: _ =>
      advance
      return combinePending pending items
    | _ =>
      match setOp? s.rest with
      | some op =>
        advance
        advance
        classItems bound (some (op, combinePending pending items)) .empty
      | none =>
        let item ← classItem
        classItems bound pending (items.push item)

/-- **Class in brackets**, from the opening one on. -/
def bracketed : Reader Ast := do
  let (negated, first) ← openBrackets
  let body ← classItems ((← get).rest.length + 1) none first
  return .brackets negated body

end Reader

end OrderedChoice.Pattern
