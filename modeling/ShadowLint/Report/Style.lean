/-!
# Styled text

A terminal shows a piece of text in a style when the piece stands between an escape
sequence that sets the style and one that resets it.  Without colours a piece is its text
alone.  A reset inside the text of a piece is followed by the style again, so that the
whole piece keeps it.
-/

namespace ShadowLint.Report

/-- A way to show a piece of text. -/
inductive Style where
  | bold
  | cyan
  | boldRed
  | boldYellow
  deriving DecidableEq, Repr

/-- The codes that set a style. -/
def Style.codes : Style → String
  | .bold => "1"
  | .cyan => "36"
  | .boldRed => "1;31"
  | .boldYellow => "1;33"

/-- The escape sequence of some codes. -/
def escapeSequence (codes : List Char) : List Char := '\x1b' :: '[' :: codes ++ ['m']

/-- The escape sequence that ends every style. -/
def resetSequence : List Char := escapeSequence ['0']

/-- The escape sequence that sets a style. -/
def Style.sequence (style : Style) : List Char := escapeSequence style.codes.toList

/-- A text with `sequence` behind every reset in it. -/
def restoreAfterResets (sequence : List Char) : List Char → List Char
  | '\x1b' :: '[' :: '0' :: 'm' :: rest =>
      resetSequence ++ sequence ++ restoreAfterResets sequence rest
  | c :: rest => c :: restoreAfterResets sequence rest
  | [] => []

/-- A piece of text in a style, or the text alone without colours. -/
def Style.paint (style : Style) (colors : Bool) (text : String) : String :=
  if colors then
    String.ofList
      (style.sequence ++ restoreAfterResets style.sequence text.toList ++ resetSequence)
  else text

end ShadowLint.Report
