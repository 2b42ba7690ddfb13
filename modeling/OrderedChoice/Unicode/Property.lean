import OrderedChoice.Text.Blank
import OrderedChoice.Unicode.Packed
import OrderedChoice.Unicode.Category
import OrderedChoice.Unicode.Script
import OrderedChoice.Unicode.ScriptExtension
import OrderedChoice.Unicode.Binary
import OrderedChoice.Unicode.Age
import OrderedChoice.Unicode.Segmentation

/-!
# Properties of characters

Which characters have a property that is asked for by name. Names are compared loosely: case,
blanks, hyphens, underscores and a leading "is" do not count.

A property is asked for in one of two ways: by one name, which is that of a binary property, a
general category or a script, or by the name of a property and the name of one of its values.
-/

namespace OrderedChoice.Unicode

/-- **Loose form of a name**: lower case, without separators and without a leading "is". What
would be left of the name of the property ISO_Comment is the name of a category, so that name is
kept whole. -/
def looseName (name : String) : String :=
  let (isStripped, body) :=
    match name.toList with
    | a :: b :: rest =>
      if a.toLower = 'i' ∧ b.toLower = 's' then (true, rest) else (false, a :: b :: rest)
    | short => (false, short)
  let kept := (body.filter fun c => c.toNat < 0x80 ∧ c ≠ ' ' ∧ c ≠ '_' ∧ c ≠ '-').map Char.toLower
  if isStripped ∧ kept = ['c'] then "isc" else String.ofList kept

/-- The name that an alias stands for, or the name itself if it is no alias. -/
def unalias (aliases : List (String × String)) (name : String) : String :=
  (aliases.lookup name).getD name

/-- The characters of the categories whose codes begin as `code` does. -/
def categories (code : String) : CharSet :=
  .unions ((categoryRanges.filter fun entry => code.toList.isPrefixOf entry.1.toList).map
    (unpackSet ·.2))

/-- The characters that are assigned in the standard. -/
def assigned : CharSet := (categories "Cn").complement

/-- **General category or group of categories**, by loose name. -/
def category? (name : String) : Option CharSet :=
  match name with
  | "any" => some .full
  | "assigned" => some assigned
  | "ascii" => some ⟨[⟨0, 0x7F⟩]⟩
  | _ =>
    match categoryNames.lookup name with
    | none => none
    | some "LC" => some (.unions [categories "Ll", categories "Lt", categories "Lu"])
    | some code => some (categories code)

/-- **Script**, by loose name. -/
def script? (name : String) : Option CharSet :=
  lookupSet? scriptRanges (unalias scriptNames name)

/-- **Characters used with a script**, by loose name. -/
def scriptExtension? (name : String) : Option CharSet :=
  let full := unalias scriptNames name
  match lookupSet? extensionRanges full with
  | some set => some set
  | none => lookupSet? scriptRanges full

/-- **Binary property**, by loose name. -/
def binary? (name : String) : Option CharSet :=
  let full := unalias binaryNames name
  if full = "whitespace" then some Text.blanks else lookupSet? binaryRanges full

/-- The tables up to and including the entry of a version. -/
def upTo (version : String) : PackedTable → Option (List (List String))
  | [] => none
  | (name, packed) :: rest =>
    let short := String.ofList ('v' :: name.toList.filter (· ≠ '.'))
    if name = version ∨ short = version then some [packed]
    else (upTo version rest).map (packed :: ·)

/-- **Characters assigned in a version of the standard or before it.** -/
def age? (version : String) : Option CharSet :=
  (upTo version ageRanges).map fun tables => .unions (tables.map unpackSet)

/-- **Characters with a property asked for by one name.** The loose names cf, sc and lc stand for
categories, although they also abbreviate properties that are not binary. -/
def named? (name : String) : Option CharSet :=
  let loose := looseName name
  let binary := if loose = "cf" ∨ loose = "sc" ∨ loose = "lc" then none else binary? loose
  (binary <|> category? loose) <|> script? loose

/-- **Characters whose property has a value.** -/
def withValue? (property value : String) : Option CharSet :=
  let value := looseName value
  match looseName property with
  | "gc" | "generalcategory" => category? value
  | "sc" | "script" => script? value
  | "scx" | "scriptextensions" => scriptExtension? value
  | "age" => age? value
  | "gcb" | "graphemeclusterbreak" => lookupSet? graphemeRanges (unalias graphemeNames value)
  | "wb" | "wordbreak" => lookupSet? wordRanges (unalias wordNames value)
  | "sb" | "sentencebreak" => lookupSet? sentenceRanges (unalias sentenceNames value)
  | _ => none

/-- **Decimal digits** of all scripts. -/
def digits : CharSet := categories "Nd"

/-- **Characters of words**: alphabetic characters, marks, decimal digits, connecting punctuation
and the two join controls. -/
def wordChars : CharSet :=
  .unions [(binary? "alphabetic").getD .empty, categories "M", digits, categories "Pc",
    (binary? "joincontrol").getD .empty]

end OrderedChoice.Unicode
