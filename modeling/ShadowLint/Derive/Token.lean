import ShadowLint.Derive.Literal
import ShadowLint.Text.Quoted

/-!
# Tokens of source texts

Generated code and the items that it is generated for are texts of which only the tokens
count: white space and comments between them do not.  `tokens` gives the tokens of a text.
A comment that documents the item behind it is not left out; it stands for an attribute and
gives the tokens of that attribute.

`compact` writes the tokens of a text one behind the other, without any white space.
-/

namespace ShadowLint.Derive

/-- A token of a source text. -/
inductive Token where
  /-- A name, a keyword or a number. -/
  | word (written : String)
  /-- A name behind a tick. -/
  | lifetime (written : String)
  /-- A string literal: the text that it stands for, and the literal itself. -/
  | text (value : String) (written : String)
  /-- Another literal in quotes. -/
  | literal (written : String)
  /-- A bracket or another mark. -/
  | mark (written : String)
  deriving DecidableEq, Repr

namespace Token

/-- A token as it is written. -/
def written : Token → String
  | word written => written
  | lifetime written => written
  | text _ written => written
  | literal written => written
  | mark written => written

end Token

/-! ## Characters -/

/-- White space in Unicode. -/
def isSpace (c : Char) : Bool :=
  let code := c.toNat
  (9 ≤ code && code ≤ 13) || code = 0x20 || code = 0x85 || code = 0xa0 || code = 0x1680
    || (0x2000 ≤ code && code ≤ 0x200a) || code = 0x2028 || code = 0x2029 || code = 0x202f
    || code = 0x205f || code = 0x3000

/-- Whether a character separates tokens: white space, or a mark of the writing direction. -/
def isSeparator (c : Char) : Bool :=
  isSpace c || c = '\u200e' || c = '\u200f'

/-- Whether a character is part of a word.  Outside ASCII everything is that is no separator. -/
def isWordChar (c : Char) : Bool :=
  c.isAlphanum || c = '_' || (128 ≤ c.toNat && !isSeparator c)

/-! ## Comments -/

/-- A comment, with the text behind its first two characters. -/
inductive Comment where
  /-- It begins with two slashes and ends with the line. -/
  | line (text : List Char)
  /-- It begins with a slash and a star, and ends with a star and a slash. -/
  | block (text : List Char)
  deriving DecidableEq, Repr

/-- A text without a carriage return at its end. -/
def dropReturn (text : List Char) : List Char :=
  if text.getLast? = some '\r' then text.dropLast else text

/-- The documentation that a comment holds: a third slash or a second star stands in front of
it, and no further one, and a block has some text. -/
def Comment.documentation? : Comment → Option String
  | .line ('/' :: text) =>
      if text.head? = some '/' then none else some (String.ofList (dropReturn text))
  | .block ('*' :: c :: text) => if c = '*' then none else some (String.ofList (c :: text))
  | _ => none

/-- The text of a block comment from behind its opening characters, and what follows it.
Comments nest; `depth` is the number of those that are open inside of it. -/
def scanBlock : Nat → List Char → List Char × List Char
  | _, [] => ([], [])
  | depth, '/' :: '*' :: rest =>
      let (text, rest) := scanBlock (depth + 1) rest
      ('/' :: '*' :: text, rest)
  | 0, '*' :: '/' :: rest => ([], rest)
  | depth + 1, '*' :: '/' :: rest =>
      let (text, rest) := scanBlock depth rest
      ('*' :: '/' :: text, rest)
  | depth, c :: rest =>
      let (text, rest) := scanBlock depth rest
      (c :: text, rest)

/-- The comment at the head of a text, if there is one, and what follows it. -/
def scanComment : List Char → Option (Comment × List Char)
  | '/' :: '/' :: rest =>
      some (.line (rest.takeWhile (· ≠ '\n')), rest.dropWhile (· ≠ '\n'))
  | '/' :: '*' :: rest =>
      let (text, rest) := scanBlock 0 rest
      some (.block text, rest)
  | _ => none

/-- The tokens that a comment stands for. -/
def Comment.tokens (comment : Comment) : List Token :=
  match comment.documentation? with
  | none => []
  | some text =>
      [.mark "#", .mark "[", .word "doc", .mark "=", .text text (Text.quoted text), .mark "]"]

/-! ## Other tokens -/

/-- A literal in quotes from behind its opening quote, with the suffix behind it. -/
def scanLiteral (opening : List Char) (quote : Char) (make : List Char → String → Token)
    (text : List Char) : Token × List Char :=
  let (content, rest) := scanQuoted quote text
  let suffix := rest.takeWhile isWordChar
  (make content.dropLast (String.ofList (opening ++ content ++ suffix)), rest.drop suffix.length)

/-- A raw literal from behind its opening quote, with the suffix behind it. -/
def scanRawLiteral (opening : List Char) (signs : Nat) (make : List Char → String → Token)
    (text : List Char) : Token × List Char :=
  let (content, rest) := scanRaw signs text
  let suffix := rest.takeWhile isWordChar
  let written := opening ++ content ++ '"' :: List.replicate signs '#' ++ suffix
  (make content (String.ofList written), rest.drop suffix.length)

/-- The token of a string literal with escapes. -/
def textToken (content : List Char) (written : String) : Token :=
  .text (String.ofList (unescaped .plain content)) written

/-- The token of a raw string literal. -/
def rawTextToken (content : List Char) (written : String) : Token :=
  .text (String.ofList content) written

/-- The token of a literal that is no string. -/
def otherLiteral (_ : List Char) (written : String) : Token := .literal written

/-- The token that begins with a word: a raw name or a literal with letters in front of it, or
else the word itself. -/
def scanWord (word : List Char) (rest : List Char) : Token × List Char :=
  let signs := rest.takeWhile (· = '#')
  match rest.drop signs.length with
  | '"' :: text =>
      let opening := word ++ signs ++ ['"']
      if word = ['r'] then scanRawLiteral opening signs.length rawTextToken text
      else if word = ['b', 'r'] || word = ['c', 'r'] then
        scanRawLiteral opening signs.length otherLiteral text
      else if signs.isEmpty && (word = ['b'] || word = ['c']) then
        scanLiteral opening '"' otherLiteral text
      else (.word (String.ofList word), rest)
  | '\'' :: text =>
      if signs.isEmpty && word = ['b'] then scanLiteral ['b', '\''] '\'' otherLiteral text
      else (.word (String.ofList word), rest)
  | text =>
      let name := text.takeWhile isWordChar
      if word = ['r'] && signs = ['#'] && !name.isEmpty then
        (.word (String.ofList (word ++ signs ++ name)), text.drop name.length)
      else (.word (String.ofList word), rest)

/-- The token that begins with a tick: a character between two of them, or a name. -/
def scanTick : List Char → Token × List Char
  | '\\' :: rest => scanLiteral ['\''] '\'' otherLiteral ('\\' :: rest)
  | c :: '\'' :: rest => scanLiteral ['\''] '\'' otherLiteral (c :: '\'' :: rest)
  | text =>
      let name := text.takeWhile isWordChar
      match scanWord name (text.drop name.length) with
      | (token, rest) => (.lifetime ("'" ++ token.written), rest)

/-- The token that begins with `c`, which is no separator and begins no comment. -/
def scanToken (c : Char) (rest : List Char) : Token × List Char :=
  if isWordChar c then
    let word := c :: rest.takeWhile isWordChar
    scanWord word (rest.dropWhile isWordChar)
  else
    match c, rest with
    | '"', _ => scanLiteral ['"'] '"' textToken rest
    | '\'', _ => scanTick rest
    | '-', '>' :: rest => (.mark "->", rest)
    | ':', ':' :: rest => (.mark "::", rest)
    | _, _ => (.mark c.toString, rest)

/-! ## Texts -/

/-- The tokens of a text, read in at most `fuel` steps. -/
def tokensWithin : Nat → List Char → List Token
  | 0, _ => []
  | _ + 1, [] => []
  | fuel + 1, c :: rest =>
      if isSeparator c then tokensWithin fuel rest
      else
        match scanComment (c :: rest) with
        | some (comment, rest) => comment.tokens ++ tokensWithin fuel rest
        | none =>
            let (token, rest) := scanToken c rest
            token :: tokensWithin fuel rest

/-- The tokens of a text; every step of reading takes a character at least. -/
def tokens (source : String) : List Token :=
  tokensWithin source.length source.toList

/-- The tokens of a list of texts with commas between them. -/
def listTokens (sources : List String) : List Token :=
  tokens (", ".intercalate sources)

/-- Tokens written one behind the other, without any white space. -/
def writtenTogether (row : List Token) : String :=
  String.ofList ((row.flatMap fun token => token.written.toList).filter fun c => !isSpace c)

/-- The tokens of a text without white space and comments. -/
def compact (source : String) : String := writtenTogether (tokens source)

end ShadowLint.Derive
