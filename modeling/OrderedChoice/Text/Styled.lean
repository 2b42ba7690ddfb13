/-!
# Styled text

Output is written with or without colors. A color is switched on by the escape sequences of a
terminal, after a reset of what was on before, and switched off by a reset.
-/

namespace OrderedChoice.Text

/-- **Colors** of the output. -/
inductive Color where
  | red
  | green
  | yellow
  | cyan
  deriving DecidableEq

/-- The number of a color in the sequences of a terminal. -/
def Color.code : Color → String
  | .red => "31"
  | .green => "32"
  | .yellow => "33"
  | .cyan => "36"

/-- The sequence of a terminal with a number. -/
def sequence (code : String) : String := "\x1b[" ++ code ++ "m"

/-- The sequence that switches everything off. -/
def resetSequence : String := sequence "0"

/-- **A text in a color**, or the plain text if `colored` is false. -/
def styled (colored : Bool) (color : Color) (bold : Bool) (text : String) : String :=
  if colored then
    resetSequence ++ (if bold then sequence "1" else "") ++ sequence color.code ++ text ++
      resetSequence
  else
    text

end OrderedChoice.Text
