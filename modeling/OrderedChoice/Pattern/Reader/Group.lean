import OrderedChoice.Unicode.Current
import OrderedChoice.Pattern.Reader.Basic

/-!
# Reading a pattern: the opening of a group

After an opening parenthesis comes the name of a group, a list of flags, or the group itself.
Groups that look around without taking up text are refused.
-/

namespace OrderedChoice.Pattern

/-- **What an opening parenthesis opens.** -/
inductive Opening where
  /-- No group: flags for the rest of the enclosing one. -/
  | settings (flags : FlagSettings)
  /-- A group with its own flags, which remembers what it matches or not. -/
  | group (captures : Bool) (flags : FlagSettings)

namespace Reader

/-- The flag that a letter stands for. -/
def flagOf? : Char → Option Flag
  | 'i' => some .ignoreCase
  | 'm' => some .multiLine
  | 's' => some .dotAll
  | 'U' => some .swapGreed
  | 'u' => some .unicode
  | 'R' => some .carriageReturn
  | 'x' => some .verbose
  | _ => none

/-- **Flags** from their letters: on before a hyphen, off after it. No flag is named twice, and
a hyphen comes once and before some flag. -/
def settingsOf? (negated : Bool) (seen : FlagSettings) : List Char → Option FlagSettings
  | [] => some []
  | '-' :: cs =>
    if negated || cs.isEmpty then none else settingsOf? true seen cs
  | c :: cs =>
    match flagOf? c with
    | none => none
    | some flag =>
      if seen.any (·.1 = flag) then none
      else (settingsOf? negated ((flag, !negated) :: seen) cs).map ((flag, !negated) :: ·)

/-- Characters of the name of a group. -/
def isNameChar (isFirst : Bool) (c : Char) : Bool :=
  if isFirst then c = '_' || Unicode.letters.contains c
  else c ∈ ['_', '.', '[', ']'] || Unicode.lettersAndNumbers.contains c

/-- **Name of a group** up to its closing angle bracket. Names are not used twice. -/
def groupName : Reader Unit := do
  let s ← get
  let name := s.rest.takeWhile (· ≠ '>')
  match name, s.rest.dropWhile (· ≠ '>') with
  | first :: others, _ :: rest =>
    require (isNameChar true first && others.all (isNameChar false))
    let name := String.ofList name
    require (!s.names.contains name)
    set { s with rest := rest, names := name :: s.names }
  | _, _ => refuse

/-- The flags of a group or of the rest of one, after the question mark. -/
def groupFlags : Reader Opening := do
  let s ← get
  let letters := s.rest.takeWhile fun c => c ≠ ':' && c ≠ ')'
  match settingsOf? false [] letters, s.rest.drop letters.length with
  | some flags, ':' :: rest =>
    set { s with rest := rest }
    return .group false flags
  | some flags, ')' :: rest =>
    require (!flags.isEmpty)
    set { s with rest := rest }
    return .settings flags
  | _, _ => refuse

/-- **Opening of a group**, from its parenthesis on. -/
def opening : Reader Opening := do
  advanceSkip
  let s ← get
  match s.rest with
  | '?' :: '=' :: _ | '?' :: '!' :: _ | '?' :: '<' :: '=' :: _ | '?' :: '<' :: '!' :: _ => refuse
  | '?' :: 'P' :: '<' :: rest | '?' :: '<' :: rest =>
    set { s with rest := rest }
    groupName
    return .group true []
  | '?' :: rest =>
    set { s with rest := rest }
    groupFlags
  | _ => return .group true []

/-- What flags say about skipping blanks, if they do. -/
def verboseIn (flags : FlagSettings) : Option Bool := flags.lookup .verbose

end Reader

end OrderedChoice.Pattern
