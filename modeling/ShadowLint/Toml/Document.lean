import ShadowLint.Toml.Quoted
import ShadowLint.Toml.Scalar
import ShadowLint.Toml.Tree

/-!
# TOML documents

A document is a row of lines: headers, which open tables, and pairs, which fill them.
`document?` gives the entries of the whole document, or nothing where the text is not
TOML.  Comments and blank lines are left out.

Readers take the rest of the text and return what they read together with what is left.
Every one of them takes a budget of steps.  The length of the text is enough of it for keys and
lines, and twice that length for values, since two steps take a character at least.

Arrays and inline tables nest no deeper than `nestingLimit`, and a dotted key has no more
keys than that.
-/

namespace ShadowLint.Toml

/-- How deep values may nest, and how long a dotted key may be. -/
def nestingLimit : Nat := 80

/-! ## Space -/

/-- What follows the blanks at the head of a text. -/
def skipBlanks (text : List Char) : List Char := text.dropWhile isBlank

/-- What follows a comment, if one stands at the head of a text.  It must be printable. -/
def skipComment : List Char → Option (List Char)
  | '#' :: rest =>
      let rest := rest.dropWhile isPrintable
      match rest with
      | [] => some []
      | '\n' :: _ => some rest
      | '\r' :: '\n' :: _ => some rest
      | _ => none
  | text => some text

/-- What follows the blanks and the comment that end a line, and the line's end itself. -/
def endLine (text : List Char) : Option (List Char) :=
  match skipComment (skipBlanks text) with
  | some [] => some []
  | some ('\n' :: rest) => some rest
  | some ('\r' :: '\n' :: rest) => some rest
  | _ => none

/-- What follows the white space and the comments between the items of an array or table. -/
def skipFiller : Nat → List Char → Option (List Char)
  | 0, text => some text
  | budget + 1, text =>
      match skipSpace text with
      | '#' :: rest =>
          match skipComment ('#' :: rest) with
          | some rest => skipFiller budget rest
          | none => none
      | rest => some rest

/-! ## Keys -/

/-- Whether a character may stand in a key without quotes. -/
def isBare (c : Char) : Bool := c.isAlphanum || c = '_' || c = '-'

/-- A single key. -/
def key? : List Char → Option (String × List Char)
  | '"' :: rest => (basicText rest).map fun (text, rest) => (String.ofList text, rest)
  | '\'' :: rest => (literalText rest).map fun (text, rest) => (String.ofList text, rest)
  | text =>
      let name := text.takeWhile isBare
      if name.isEmpty then none else some (String.ofList name, text.drop name.length)

/-- A dotted key, from the keys that are read already, and the blanks behind it. -/
def keyPath? (way : List String) : Nat → List Char → Option (KeyPath × List Char)
  | 0, _ => none
  | budget + 1, text =>
      match key? (skipBlanks text) with
      | none => none
      | some (key, rest) =>
          match skipBlanks rest with
          | '.' :: rest => keyPath? (way ++ [key]) budget rest
          | rest => if way.length < nestingLimit then some (⟨way, key⟩, rest) else none

/-! ## Values -/

/-- Whether a character ends an unquoted value wherever it stands. -/
def endsWord (c : Char) : Bool :=
  c = '\n' || c = '\r' || c = ',' || c = '=' || c = '#' || c = '[' || c = ']' || c = '\x7b'
    || c = '\x7d'

/-- The characters of an unquoted value, with the blanks in it and behind it.  A quote behind
a blank begins something else. -/
def takeWord (behindBlank : Bool) : List Char → List Char
  | [] => []
  | c :: rest =>
      if endsWord c || (behindBlank && (c = '"' || c = '\'')) then []
      else c :: takeWord (isBlank c) rest

/-- An unquoted value. -/
def word? (text : List Char) : Option (Value × List Char) :=
  let word := ((takeWord true text).reverse.dropWhile isBlank).reverse
  (scalar? word).map fun value => (value, text.drop word.length)

mutual

/-- A value inside of `depth` others. -/
def value? (depth : Nat) : Nat → List Char → Option (Value × List Char)
  | 0, _ => none
  | budget + 1, text =>
      match text with
      | '[' :: rest => do
          guard (depth < nestingLimit)
          let (items, rest) ← items? (depth + 1) budget rest
          return (.array items, rest)
      | '\x7b' :: rest => do
          guard (depth < nestingLimit)
          let (entries, rest) ← entries? (depth + 1) [] budget rest
          return (.table (closeEntries entries), rest)
      | '"' :: _ => (quoted? text).map fun (s, rest) => (.string (String.ofList s), rest)
      | '\'' :: _ => (quoted? text).map fun (s, rest) => (.string (String.ofList s), rest)
      | _ => word? text
termination_by structural budget => budget

/-- The items of an array up to its closing bracket. -/
def items? (depth : Nat) : Nat → List Char → Option (List Value × List Char)
  | 0, _ => none
  | budget + 1, text => do
      match ← skipFiller text.length text with
      | ']' :: rest => return ([], rest)
      | text =>
          let (head, rest) ← value? depth budget text
          match ← skipFiller rest.length rest with
          | ',' :: rest =>
              let (items, rest) ← items? depth budget rest
              return (head :: items, rest)
          | ']' :: rest => return ([head], rest)
          | _ => none
termination_by structural budget => budget

/-- The entries of an inline table up to its closing brace, added to those read already. -/
def entries? (depth : Nat) (entries : Branches) :
    Nat → List Char → Option (Branches × List Char)
  | 0, _ => none
  | budget + 1, text => do
      match ← skipFiller text.length text with
      | '\x7d' :: rest => return (entries, rest)
      | text =>
          let (path, rest) ← keyPath? [] text.length text
          match ← skipFiller rest.length rest with
          | '=' :: rest =>
              let (value, rest) ← value? depth budget (← skipFiller rest.length rest)
              let entries ← entries.assign path value
              match ← skipFiller rest.length rest with
              | ',' :: rest => entries? depth entries budget rest
              | '\x7d' :: rest => return (entries, rest)
              | _ => none
          | _ => none
termination_by structural budget => budget

end

/-- A key and its value on a line. -/
def pair? (text : List Char) : Option ((KeyPath × Value) × List Char) := do
  match ← keyPath? [] text.length text with
  | (path, '=' :: rest) =>
      let (value, rest) ← value? 0 (2 * rest.length + 1) (skipBlanks rest)
      return ((path, value), rest)
  | _ => none

/-! ## Lines -/

/-- A line of a document that says something. -/
inductive Line where
  /-- A header that names a table. -/
  | table (path : KeyPath)
  /-- A header that names a further table of an array. -/
  | element (path : KeyPath)
  | pair (path : KeyPath) (value : Value)

/-- The line at the head of a text without its end. -/
def line? (text : List Char) : Option (Line × List Char) :=
  match text with
  | '[' :: '[' :: rest =>
      match keyPath? [] rest.length rest with
      | some (path, ']' :: ']' :: rest) => some (.element path, rest)
      | _ => none
  | '[' :: rest =>
      match keyPath? [] rest.length rest with
      | some (path, ']' :: rest) => some (.table path, rest)
      | _ => none
  | text =>
      (pair? text).map fun ((path, value), rest) => (.pair path value, rest)

/-- The lines of a text. -/
def lines? : Nat → List Char → Option (List Line)
  | _, [] => some []
  | 0, _ => none
  | budget + 1, text =>
      match endLine text with
      | some rest => lines? budget rest
      | none => do
          let (line, rest) ← line? (skipBlanks text)
          let rest ← endLine rest
          let lines ← lines? budget rest
          return line :: lines

/-! ## Documents -/

/-- A document that is being read: its entries, and the header whose table is being filled. -/
structure Draft where
  entries : Branches
  header : List String

/-- The draft after a line. -/
def Draft.add (draft : Draft) : Line → Option Draft
  | .table path =>
      (draft.entries.openTable path).map fun entries => ⟨entries, path.keys⟩
  | .element path =>
      (draft.entries.openElement path).map fun entries => ⟨entries, path.keys⟩
  | .pair path value =>
      (draft.entries.assignBelow draft.header path value).map fun entries =>
        { draft with entries }

/-- Leaves out a byte order mark at the head of a text. -/
def skipByteOrderMark : List Char → List Char
  | '\ufeff' :: rest => rest
  | text => text

/-- The entries of the document that a text stands for. -/
def document? (text : String) : Option (List (String × Value)) := do
  let text := skipByteOrderMark text.toList
  let lines ← lines? text.length text
  let draft ← lines.foldlM Draft.add ⟨[], []⟩
  return closeEntries draft.entries

end ShadowLint.Toml
