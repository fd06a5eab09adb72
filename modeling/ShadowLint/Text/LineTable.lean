/-!
# Rows and columns of byte offsets

A diagnostic carries byte offsets into a source text, and a report shows rows and
columns.  `lineStarts` lists the offsets at which the lines of a text begin, and
`Locator.location` looks an offset up in that list and counts the characters that
stand before it on its line.

A line ends at a line feed, or at a carriage return that no line feed follows.  Rows
and columns count from one; a column counts characters, except for an offset inside a
character, whose column counts bytes.  An offset past the end stands for the end.
-/

namespace ShadowLint.Text

/-- The number of bytes that a text takes in UTF-8. -/
def byteLength : List Char → Nat
  | [] => 0
  | c :: rest => c.utf8Size + byteLength rest

/-- The offsets at which the lines after the first begin, in a text that stands at
byte `offset` of a larger one. -/
def lineStartsFrom (offset : Nat) : List Char → List Nat
  | [] => []
  | '\r' :: '\n' :: rest => (offset + 2) :: lineStartsFrom (offset + 2) rest
  | c :: rest =>
      if c = '\n' ∨ c = '\r' then
        (offset + 1) :: lineStartsFrom (offset + 1) rest
      else
        lineStartsFrom (offset + c.utf8Size) rest

/-- The byte offsets at which the lines of a text begin; the first line begins at 0. -/
def lineStarts (text : List Char) : List Nat :=
  0 :: lineStartsFrom 0 text

/-- The text that remains after its first `n` bytes, where byte `n` begins a character. -/
def dropBytes (n : Nat) : List Char → List Char
  | [] => []
  | c :: rest => if n = 0 then c :: rest else dropBytes (n - c.utf8Size) rest

/-- The number of characters in the first `n` bytes of a text, or `none` where these
bytes end inside a character or the text is shorter. -/
def charCount? (n : Nat) : List Char → Option Nat
  | [] => if n = 0 then some 0 else none
  | c :: rest =>
      if n = 0 then some 0
      else if c.utf8Size ≤ n then (charCount? (n - c.utf8Size) rest).map (· + 1)
      else none

/-- The number of entries that do not exceed `x` in the ascending array `a`, found by
halving the interval from `lo` to `hi` that holds the answer. -/
def countUpTo (a : Array Nat) (x lo hi : Nat) (bound : hi ≤ a.size) : Nat :=
  if inside : lo < hi then
    have middle : (lo + hi) / 2 < a.size := by omega
    if a[(lo + hi) / 2] ≤ x then countUpTo a x ((lo + hi) / 2 + 1) hi bound
    else countUpTo a x lo ((lo + hi) / 2) (by omega)
  else lo
termination_by hi - lo

/-- A place in a text as a person reads it: both numbers count from one. -/
structure SourceLocation where
  row : Nat
  column : Nat
  deriving DecidableEq, Repr

/-- The row and the column, with a colon between them. -/
def SourceLocation.text (location : SourceLocation) : String :=
  toString location.row ++ ":" ++ toString location.column

/-- A source text together with its table of line starts. -/
structure Locator where
  text : List Char
  starts : Array Nat

namespace Locator

/-- The locator of a source text. -/
def ofText (text : String) : Locator :=
  { text := text.toList, starts := (lineStarts text.toList).toArray }

/-- The offset itself, or the length of the text where the offset lies past it. -/
def clamp (locator : Locator) (offset : Nat) : Nat :=
  min offset (byteLength locator.text)

/-- The number of lines that begin at or before `offset`; the last of them holds it. -/
def rowOf (locator : Locator) (offset : Nat) : Nat :=
  countUpTo locator.starts offset 0 locator.starts.size (Nat.le_refl _)

/-- The row and the column of a byte offset. -/
def location (locator : Locator) (offset : Nat) : SourceLocation :=
  let offset := locator.clamp offset
  let row := locator.rowOf offset
  let start := locator.starts.getD (row - 1) 0
  let before := offset - start
  { row, column := (charCount? before (dropBytes start locator.text)).getD before + 1 }

end Locator

end ShadowLint.Text
