import OrderedChoice.Unicode.Current

/-!
# Quoted text

A text is shown between quotes on one line. Quotes, backslashes and characters that are not shown
as they are take an escape: a letter for the common ones, and otherwise the code point in braces.
-/

namespace OrderedChoice.Text

/-- **Shown form of a character** between quotes. -/
def showChar (c : Char) : List Char :=
  match c with
  | '"' => ['\\', '"']
  | '\\' => ['\\', '\\']
  | '\n' => ['\\', 'n']
  | '\r' => ['\\', 'r']
  | '\t' => ['\\', 't']
  | '\x00' => ['\\', '0']
  | _ =>
    if Unicode.hidden.contains c then
      '\\' :: 'u' :: '{' :: Nat.toDigits 16 c.toNat ++ ['}']
    else
      [c]

/-- **Shown form of a text**, with its quotes. -/
def quoted (text : List Char) : List Char := '"' :: text.flatMap showChar ++ ['"']

end OrderedChoice.Text
