import OrderedChoice.CharSet

/-!
# White space

The 25 characters with the property White_Space. They separate the words of a source text, and a
pattern asks for them with the shorthand for space.
-/

namespace OrderedChoice.Text

/-- **White space characters.** -/
def blanks : CharSet := ⟨[
  ⟨0x9, 0xD⟩, ⟨0x20, 0x20⟩, ⟨0x85, 0x85⟩, ⟨0xA0, 0xA0⟩, ⟨0x1680, 0x1680⟩, ⟨0x2000, 0x200A⟩,
  ⟨0x2028, 0x2029⟩, ⟨0x202F, 0x202F⟩, ⟨0x205F, 0x205F⟩, ⟨0x3000, 0x3000⟩]⟩

/-- Whether a character is white space. -/
def isBlank (c : Char) : Bool := blanks.contains c

end OrderedChoice.Text
