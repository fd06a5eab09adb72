import ShadowLint.Text.Digit

/-!
# Quoted TOML strings

A string stands between quotes or apostrophes, single or threefold.  Between quotes a
backslash begins an escape; between apostrophes it stands for itself.  Threefold marks
allow line feeds, of which one right behind the opening mark does not count, and up to two
marks at the very end of the text.

Each reader starts behind the opening mark and returns the text and what follows the
closing mark.
-/

namespace ShadowLint.Toml

/-- Whether a character may stand in a comment or, unescaped, in a string. -/
def isPrintable (c : Char) : Bool := c = '\t' || (' ' ≤ c && c ≠ '\x7f')

/-- White space within a line. -/
def isBlank (c : Char) : Bool := c = ' ' || c = '\t'

/-- The number that hexadecimal digits stand for. -/
def hexNumber? (digits : List Char) : Option Nat :=
  digits.foldlM (fun value c => (Text.hexValue? c).map (value * 16 + ·)) 0

/-- The character whose code is written in `count` hexadecimal digits. -/
def codedChar (count : Nat) (text : List Char) : Option Char :=
  let digits := text.take count
  if digits.length < count then none
  else
    match hexNumber? digits with
    | some code => if code.isValidChar then some (Char.ofNat code) else none
    | none => none

/-- The character of an escape from behind its backslash, and how many characters the
escape takes there. -/
def escaped? : List Char → Option (Char × Nat)
  | [] => none
  | c :: rest =>
      match c with
      | 'b' => some ('\x08', 1)
      | 't' => some ('\t', 1)
      | 'n' => some ('\n', 1)
      | 'f' => some ('\x0c', 1)
      | 'r' => some ('\r', 1)
      | 'e' => some ('\x1b', 1)
      | '"' => some ('"', 1)
      | '\\' => some ('\\', 1)
      | 'x' => (codedChar 2 rest).map fun c => (c, 3)
      | 'u' => (codedChar 4 rest).map fun c => (c, 5)
      | 'U' => (codedChar 8 rest).map fun c => (c, 9)
      | _ => none

/-- A text in front of what a reader returns. -/
def prepend (head : List Char) :
    Option (List Char × List Char) → Option (List Char × List Char) :=
  Option.map fun (text, rest) => (head ++ text, rest)

/-- The text up to a closing quote. -/
def basicText : List Char → Option (List Char × List Char)
  | [] => none
  | c :: rest =>
      if c = '"' then some ([], rest)
      else if c = '\\' then
        match escaped? rest with
        | some (c, count) => prepend [c] (basicText (rest.drop count))
        | none => none
      else if isPrintable c then prepend [c] (basicText rest)
      else none
termination_by text => text.length
decreasing_by all_goals simp only [List.length_drop, List.length_cons]; omega

/-- The text up to a closing apostrophe. -/
def literalText : List Char → Option (List Char × List Char)
  | [] => none
  | c :: rest =>
      if c = '\'' then some ([], rest)
      else if isPrintable c then prepend [c] (literalText rest)
      else none

/-- Leaves out a line feed at the head of a text. -/
def skipLineFeed : List Char → List Char
  | '\n' :: rest => rest
  | '\r' :: '\n' :: rest => rest
  | text => text

/-- What follows the blanks and line feeds at the head of a text. -/
def skipSpace : List Char → List Char
  | [] => []
  | '\r' :: '\n' :: rest => skipSpace rest
  | c :: rest => if isBlank c || c = '\n' then skipSpace rest else c :: rest

/-- What follows a line's end, if nothing but blanks stands before it, and all white space
behind it. -/
def continued? (text : List Char) : Option (List Char) :=
  match text.dropWhile isBlank with
  | '\n' :: rest => some (skipSpace rest)
  | '\r' :: '\n' :: rest => some (skipSpace rest)
  | _ => none

/-- White space is left out of a text, not added. -/
theorem length_skipSpace_le (text : List Char) : (skipSpace text).length ≤ text.length := by
  fun_induction skipSpace text <;> simp_all <;> omega

/-- A continuation is shorter than the text from behind its backslash. -/
theorem length_continued?_lt {text rest : List Char} (h : continued? text = some rest) :
    rest.length < text.length := by
  have shorter := (List.dropWhile_suffix (p := isBlank) (l := text)).length_le
  unfold continued? at h
  split at h
  · next tail same =>
      have := length_skipSpace_le tail
      simp_all
      grind
  · next tail same =>
      have := length_skipSpace_le tail
      simp_all
      grind
  · cases h

/-- The text up to a threefold `mark`; escapes count where `escapes` says so. -/
def multilineText (mark : Char) (escapes : Bool) : List Char → Option (List Char × List Char)
  | [] => none
  | c :: rest =>
      if c = mark then
        let more := (rest.takeWhile (· = mark)).length
        if more < 2 then
          prepend (List.replicate (more + 1) mark)
            (multilineText mark escapes (rest.drop more))
        else if more < 5 then some (List.replicate (more - 2) mark, rest.drop more)
        else none
      else if c = '\\' && escapes then
        match _h : continued? rest with
        | some rest => multilineText mark escapes rest
        | none =>
            match escaped? rest with
            | some (c, count) => prepend [c] (multilineText mark escapes (rest.drop count))
            | none => none
      else if c = '\n' || isPrintable c || (c = '\r' && rest.head? = some '\n') then
        prepend [c] (multilineText mark escapes rest)
      else none
termination_by text => text.length
decreasing_by
  all_goals simp only [List.length_drop, List.length_cons]
  · omega
  · have := length_continued?_lt _h
    omega
  · omega
  · omega

/-- The string at the head of a text, if a quote or an apostrophe stands there. -/
def quoted? : List Char → Option (List Char × List Char)
  | '"' :: '"' :: '"' :: rest => multilineText '"' true (skipLineFeed rest)
  | '"' :: rest => basicText rest
  | '\'' :: '\'' :: '\'' :: rest => multilineText '\'' false (skipLineFeed rest)
  | '\'' :: rest => literalText rest
  | _ => none

end ShadowLint.Toml
