import ShadowLint.Json.Numeral
import ShadowLint.Text.Digit
import ShadowLint.Text.LineTable

/-!
# Tokens of JSON texts

`tokens` cuts a text into tokens and drops the white space between them.  The last token
of a text that goes wrong or ends inside a token is a broken one.

A reader may keep a value or skip it, and the two treat a token differently: a skipped
string may hold unpaired surrogates, and a skipped numeral that ends too early counts as
malformed.  A broken token therefore says what is wrong with it in either case, and a
string without meaning has no text.
-/

namespace ShadowLint.Json

/-- What is wrong with a text: it ends too early, or it is not JSON. -/
inductive Damage where
  | endOfText
  | malformed
  deriving DecidableEq, Repr

/-- A token of a JSON text. -/
inductive Token where
  | leftBrace
  | rightBrace
  | leftBracket
  | rightBracket
  | colon
  | comma
  | null
  | bool (value : Bool)
  | number (numeral : Numeral)
  /-- A string, without a text where one of its surrogates is unpaired. -/
  | string (text : Option String)
  /-- A string that does not end properly. -/
  | brokenString (kept skipped : Damage)
  /-- Something else that is not a token. -/
  | brokenScalar (kept skipped : Damage)
  deriving DecidableEq, Repr

/-- Whether a token is a broken one. -/
def Token.isBroken : Token → Bool
  | .brokenString .. => true
  | .brokenScalar .. => true
  | _ => false

/-- White space between tokens: space, tab, line feed and carriage return. -/
def isBlank (c : Char) : Bool :=
  c = ' ' || c = '\t' || c = '\n' || c = '\r'

/-- Whether a character is a decimal digit. -/
def isDigit (c : Char) : Bool := '0' ≤ c && c ≤ '9'

/-! ## Words and numerals -/

/-- Scans the rest of a word that stands for `token`. -/
def scanWord (token : Token) : List Char → List Char → Token × List Char
  | [], text => (token, text)
  | _ :: _, [] => (.brokenScalar .endOfText .endOfText, [])
  | w :: word, c :: text =>
      if w = c then scanWord token word text else (.brokenScalar .malformed .malformed, [])

/-- A numeral that breaks off where `text` begins. -/
def brokenNumeral (text : List Char) : Token × List Char :=
  (.brokenScalar (if text.isEmpty then .endOfText else .malformed) .malformed, [])

/-- Scans the power of ten of a numeral, from behind its letter. -/
def scanPower (numeral : Numeral) (text : List Char) : Token × List Char :=
  let (negative, text) : Bool × List Char :=
    match text with
    | '+' :: rest => (false, rest)
    | '-' :: rest => (true, rest)
    | _ => (false, text)
  let digits := text.takeWhile isDigit
  if digits.isEmpty then brokenNumeral text
  else (.number { numeral with exponent := some ⟨negative, digits⟩ }, text.dropWhile isDigit)

/-- Scans what follows the digits of a numeral: a power of ten or nothing. -/
def scanExponent (numeral : Numeral) (text : List Char) : Token × List Char :=
  match text with
  | c :: rest => if c = 'e' || c = 'E' then scanPower numeral rest else (.number numeral, text)
  | [] => (.number numeral, [])

/-- Scans what follows the whole part of a numeral. -/
def scanFraction (numeral : Numeral) (text : List Char) : Token × List Char :=
  match text with
  | '.' :: rest =>
      let digits := rest.takeWhile isDigit
      if digits.isEmpty then brokenNumeral rest
      else scanExponent { numeral with fraction := digits } (rest.dropWhile isDigit)
  | _ => scanExponent numeral text

/-- Scans a numeral from behind its sign; a zero stands alone in its whole part. -/
def scanNumeral (negative : Bool) (text : List Char) : Token × List Char :=
  let digits := text.takeWhile isDigit
  let rest := text.dropWhile isDigit
  let numeral : Numeral := { negative, whole := digits, fraction := [], exponent := none }
  match digits with
  | [] => brokenNumeral text
  | ['0'] => scanFraction numeral rest
  | '0' :: _ => (.brokenScalar .malformed .malformed, [])
  | _ => scanFraction numeral rest

/-! ## Strings -/

/-- What a kept string holds so far. -/
inductive Content where
  /-- The characters so far, last first. -/
  | chars (reversed : List Char)
  /-- The same, and the first half of a surrogate pair. -/
  | half (reversed : List Char) (high : Nat)
  /-- A surrogate is unpaired. -/
  | unpaired

namespace Content

/-- The content with one more character. -/
def push (c : Char) : Content → Content
  | .chars reversed => .chars (c :: reversed)
  | _ => .unpaired

/-- The content with one more 16-bit unit, which may be half of a surrogate pair. -/
def pushUnit (unit : Nat) : Content → Content
  | .chars reversed =>
      if 0xd800 ≤ unit && unit ≤ 0xdbff then .half reversed unit
      else if 0xdc00 ≤ unit && unit ≤ 0xdfff then .unpaired
      else .chars (Char.ofNat unit :: reversed)
  | .half reversed high =>
      if 0xdc00 ≤ unit && unit ≤ 0xdfff then
        .chars (Char.ofNat (0x10000 + (high - 0xd800) * 0x400 + (unit - 0xdc00)) :: reversed)
      else .unpaired
  | .unpaired => .unpaired

/-- The text of a complete string. -/
def text? : Content → Option String
  | .chars reversed => some (String.ofList reversed.reverse)
  | _ => none

/-- The token of a string that breaks off with `damage`; an unpaired surrogate before that
place is what a kept string stumbles over first. -/
def broken (content : Content) (damage : Damage) : Token × List Char :=
  match content with
  | .unpaired => (.brokenString .malformed damage, [])
  | _ => (.brokenString damage damage, [])

end Content

/-- The 16-bit unit of four hexadecimal digits. -/
def unit? (a b c d : Char) : Option Nat := do
  let a ← Text.hexValue? a
  let b ← Text.hexValue? b
  let c ← Text.hexValue? c
  let d ← Text.hexValue? d
  return ((a * 16 + b) * 16 + c) * 16 + d

/-- The character that stands behind a backslash for another one. -/
def escaped? (c : Char) : Option Char :=
  if c = '"' then some '"'
  else if c = '\\' then some '\\'
  else if c = '/' then some '/'
  else if c = 'b' then some '\x08'
  else if c = 'f' then some '\x0c'
  else if c = 'n' then some '\n'
  else if c = 'r' then some '\r'
  else if c = 't' then some '\t'
  else none

/-- Scans a string from behind its opening quote or a later character.  A numeric escape
with fewer than four bytes behind it runs into the end of the text. -/
def scanString (content : Content) : List Char → Token × List Char
  | [] => content.broken .endOfText
  | '"' :: rest => (.string content.text?, rest)
  | ['\\'] => content.broken .endOfText
  | '\\' :: 'u' :: a :: b :: c :: d :: rest =>
      match unit? a b c d with
      | some unit => scanString (content.pushUnit unit) rest
      | none => content.broken .malformed
  | '\\' :: 'u' :: short =>
      content.broken (if Text.byteLength short < 4 then .endOfText else .malformed)
  | '\\' :: e :: rest =>
      match escaped? e with
      | some c => scanString (content.push c) rest
      | none => content.broken .malformed
  | c :: rest =>
      if c.toNat < 0x20 then content.broken .malformed else scanString (content.push c) rest

/-! ## Texts -/

/-- Scans the token that begins with `c`, which is no white space. -/
def scanToken (c : Char) (rest : List Char) : Token × List Char :=
  match c with
  | '\x7b' => (.leftBrace, rest)
  | '\x7d' => (.rightBrace, rest)
  | '[' => (.leftBracket, rest)
  | ']' => (.rightBracket, rest)
  | ':' => (.colon, rest)
  | ',' => (.comma, rest)
  | 'n' => scanWord .null ['u', 'l', 'l'] rest
  | 't' => scanWord (.bool true) ['r', 'u', 'e'] rest
  | 'f' => scanWord (.bool false) ['a', 'l', 's', 'e'] rest
  | '-' => scanNumeral true rest
  | '"' => scanString (.chars []) rest
  | _ =>
      if isDigit c then scanNumeral false (c :: rest)
      else (.brokenScalar .malformed .malformed, [])

/-- The tokens of a text, at most `fuel` of them. -/
def tokensWithin : Nat → List Char → List Token
  | 0, _ => []
  | _ + 1, [] => []
  | fuel + 1, c :: rest =>
      if isBlank c then tokensWithin fuel rest
      else
        let (token, rest) := scanToken c rest
        if token.isBroken then [token] else token :: tokensWithin fuel rest

/-- The tokens of a text up to the first broken one; there are no more than characters. -/
def tokens (text : List Char) : List Token :=
  tokensWithin text.length text

end ShadowLint.Json
