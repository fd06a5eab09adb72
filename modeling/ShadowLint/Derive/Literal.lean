import ShadowLint.Text.Digit

/-!
# String literals of source texts

A string literal stands between quotes, and a backslash in it begins an escape.  A raw one has
no escapes; as many number signs as stand in front of its opening quote close it behind a
quote.

The scanners start behind the opening quote and return what they read and what is left.
`unescaped` gives the text that a literal with escapes stands for.
-/

namespace ShadowLint.Derive

/-! ## Where a literal ends -/

/-- The characters up to the closing quote and that quote itself. -/
def scanQuoted (quote : Char) : List Char → List Char × List Char
  | [] => ([], [])
  | '\\' :: c :: rest =>
      let (written, rest) := scanQuoted quote rest
      ('\\' :: c :: written, rest)
  | c :: rest =>
      if c = quote then ([c], rest)
      else
        let (written, rest) := scanQuoted quote rest
        (c :: written, rest)

/-- The characters in front of the quote that `signs` number signs follow, and what stands
behind these. -/
def scanRaw (signs : Nat) : List Char → List Char × List Char
  | [] => ([], [])
  | c :: rest =>
      if c = '"' && (rest.take signs).length = signs && (rest.take signs).all (· = '#') then
        ([], rest.drop signs)
      else
        let (content, rest) := scanRaw signs rest
        (c :: content, rest)

/-! ## Escapes -/

/-- What the next character of a literal is part of. -/
inductive EscapeState where
  | plain
  /-- White space behind a line's end that a backslash hides. -/
  | hidden
  /-- The digits of a character's number. -/
  | number (value : Nat)
  deriving DecidableEq, Repr

/-- Whether a character is hidden behind a backslash at a line's end. -/
def isHidden (c : Char) : Bool := c = ' ' || c = '\t' || c = '\n' || c = '\r'

/-- The state in front of a text that follows a hidden line's end or white space. -/
def EscapeState.behindHidden (text : List Char) : EscapeState :=
  if text.head?.any isHidden then hidden else plain

/-- The character that stands behind a backslash for another one. -/
def escapedChar (c : Char) : Char :=
  if c = 'n' then '\n'
  else if c = 'r' then '\r'
  else if c = 't' then '\t'
  else if c = '0' then '\x00'
  else c

/-- The text that the content of a literal with escapes stands for.  A line's end of two
characters counts as a line feed. -/
def unescaped : EscapeState → List Char → List Char
  | _, [] => []
  | .plain, '\\' :: 'x' :: a :: b :: rest =>
      Char.ofNat (Text.numberOf 16 [a, b]) :: unescaped .plain rest
  | .plain, '\\' :: 'u' :: '\x7b' :: rest => unescaped (.number 0) rest
  | .plain, '\\' :: c :: rest =>
      if c = '\n' || c = '\r' then unescaped (.behindHidden rest) rest
      else escapedChar c :: unescaped .plain rest
  | .plain, '\r' :: '\n' :: rest => '\n' :: unescaped .plain rest
  | .plain, c :: rest => c :: unescaped .plain rest
  | .hidden, _ :: rest => unescaped (.behindHidden rest) rest
  | .number value, c :: rest =>
      if c = '\x7d' then Char.ofNat value :: unescaped .plain rest
      else if c = '_' then unescaped (.number value) rest
      else unescaped (.number (value * 16 + (Text.hexValue? c).getD 0)) rest

end ShadowLint.Derive
