import ShadowLint.Text.Digit
import ShadowLint.Text.Unprintable

/-!
# Quoted text

The form in which a message shows a piece of text exactly: between double quotes, with
every character that a reader could not see or could mistake written as an escape.
-/

namespace ShadowLint.Text

/-- The escape of a character by its number. -/
def numericEscape (c : Char) : String :=
  "\\u\x7b" ++ hexText c.toNat ++ "\x7d"

/-- One character of a quoted text. -/
def quotedChar (c : Char) : String :=
  if c = '\x00' then "\\0"
  else if c = '\t' then "\\t"
  else if c = '\n' then "\\n"
  else if c = '\r' then "\\r"
  else if c = '"' then "\\\""
  else if c = '\\' then "\\\\"
  else if isUnprintable c then numericEscape c
  else c.toString

/-- A text between double quotes, with escapes. -/
def quoted (text : String) : String :=
  "\"" ++ String.join (text.toList.map quotedChar) ++ "\""

end ShadowLint.Text
