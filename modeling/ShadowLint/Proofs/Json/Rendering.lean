import ShadowLint.Json.Token
import ShadowLint.Json.Value

/-!
# The texts of JSON values

A value has many texts: white space may stand before and after every token, and a character of
a string may be written by itself, by a letter behind a backslash, or by its number.
`Value.Renders` says which texts these are.  It is the grammar of JSON in two layers:
`Value.tokens` is the row of tokens of a value, `Token.Written` the spellings of one token, and
`Spaced` puts them next to each other.

The relation says nothing about how a text is read, and no function of the reader occurs in it
but the values of digits.
-/

namespace ShadowLint.Json

/-! ## Rows of tokens -/

mutual

/-- The tokens of a value. -/
def Value.tokens : Value → List Token
  | .null => [.null]
  | .bool value => [.bool value]
  | .number numeral => [.number numeral]
  | .string text => [.string (some text)]
  | .array [] => [.leftBracket, .rightBracket]
  | .array (head :: rest) =>
      .leftBracket :: (head.tokens ++ (itemTokens rest ++ [.rightBracket]))
  | .object [] => [.leftBrace, .rightBrace]
  | .object ((key, value) :: rest) =>
      .leftBrace :: .string (some key) :: .colon ::
        (value.tokens ++ (memberTokens rest ++ [.rightBrace]))

/-- The tokens of the items of an array behind the first one. -/
def itemTokens : List Value → List Token
  | [] => []
  | head :: rest => .comma :: (head.tokens ++ itemTokens rest)

/-- The tokens of the members of an object behind the first one. -/
def memberTokens : List (String × Value) → List Token
  | [] => []
  | (key, value) :: rest =>
      .comma :: .string (some key) :: .colon :: (value.tokens ++ memberTokens rest)

end

/-- Induction on values: a property of all items, or of the values of all members, passes to
the array or the object. -/
theorem Value.induction {motive : Value → Prop} (null : motive .null)
    (bool : ∀ value, motive (.bool value)) (number : ∀ numeral, motive (.number numeral))
    (string : ∀ text, motive (.string text))
    (array : ∀ items, (∀ item ∈ items, motive item) → motive (.array items))
    (object : ∀ members, (∀ member ∈ members, motive member.2) → motive (.object members)) :
    ∀ value, motive value
  | .null => null
  | .bool value => bool value
  | .number numeral => number numeral
  | .string text => string text
  | .array items => array items fun item inside =>
      have smaller : sizeOf item < sizeOf items := List.sizeOf_lt_of_mem inside
      induction null bool number string array object item
  | .object members => object members fun (key, value) inside =>
      have smaller : sizeOf value < sizeOf members := by
        have entry := List.sizeOf_lt_of_mem inside
        rw [Prod.mk.sizeOf_spec] at entry
        omega
      induction null bool number string array object value

/-! ## Spellings of tokens -/

/-- A row of at least one decimal digit. -/
def Digits (digits : List Char) : Prop := digits ≠ [] ∧ ∀ c ∈ digits, isDigit c = true

/-- The spellings of a fraction; one without digits is left out. -/
inductive FractionWritten : List Char → List Char → Prop
  | absent : FractionWritten [] []
  | point {digits : List Char} : Digits digits → FractionWritten digits ('.' :: digits)

/-- The spellings of a power of ten. -/
inductive ExponentWritten : Option Exponent → List Char → Prop
  | absent : ExponentWritten none []
  | unsigned {letter : Char} {digits : List Char} : letter = 'e' ∨ letter = 'E' →
      Digits digits → ExponentWritten (some ⟨false, digits⟩) (letter :: digits)
  | positive {letter : Char} {digits : List Char} : letter = 'e' ∨ letter = 'E' →
      Digits digits → ExponentWritten (some ⟨false, digits⟩) (letter :: '+' :: digits)
  | negative {letter : Char} {digits : List Char} : letter = 'e' ∨ letter = 'E' →
      Digits digits → ExponentWritten (some ⟨true, digits⟩) (letter :: '-' :: digits)

/-- The spellings of a numeral; a zero in front stands alone in its whole part. -/
inductive Numeral.Written : Numeral → List Char → Prop
  | mk {numeral : Numeral} {fraction exponent : List Char} : Digits numeral.whole →
      (numeral.whole.head? = some '0' → numeral.whole = ['0']) →
      FractionWritten numeral.fraction fraction → ExponentWritten numeral.exponent exponent →
      Numeral.Written numeral
        ((if numeral.negative then ['-'] else []) ++ (numeral.whole ++ (fraction ++ exponent)))

/-- The letters that stand behind a backslash, and the characters that they stand for. -/
def letterEscapes : List (Char × Char) :=
  [('"', '"'), ('\\', '\\'), ('/', '/'), ('b', '\x08'), ('f', '\x0c'), ('n', '\n'), ('r', '\r'),
    ('t', '\t')]

/-- The spellings of a 16-bit number in four hexadecimal digits. -/
inductive UnitWritten : Nat → List Char → Prop
  | mk {a b c d : Char} {i j k l : Nat} : Text.hexValue? a = some i →
      Text.hexValue? b = some j → Text.hexValue? c = some k → Text.hexValue? d = some l →
      UnitWritten (((i * 16 + j) * 16 + k) * 16 + l) [a, b, c, d]

/-- The spellings of one character of a string. -/
inductive CharWritten : Char → List Char → Prop
  | plain {c : Char} : 0x20 ≤ c.toNat → c ≠ '"' → c ≠ '\\' → CharWritten c [c]
  | letter {e c : Char} : (e, c) ∈ letterEscapes → CharWritten c ['\\', e]
  | unit {c : Char} {digits : List Char} : UnitWritten c.toNat digits →
      CharWritten c ('\\' :: 'u' :: digits)
  /-- Characters beyond the 16-bit numbers are written as two halves. -/
  | pair {c : Char} {high low : List Char} : 0x10000 ≤ c.toNat →
      UnitWritten (0xd800 + (c.toNat - 0x10000) / 0x400) high →
      UnitWritten (0xdc00 + (c.toNat - 0x10000) % 0x400) low →
      CharWritten c ('\\' :: 'u' :: (high ++ '\\' :: 'u' :: low))

/-- The spellings of a row of characters. -/
inductive CharsWritten : List Char → List Char → Prop
  | nil : CharsWritten [] []
  | cons {c : Char} {rest written more : List Char} : CharWritten c written →
      CharsWritten rest more → CharsWritten (c :: rest) (written ++ more)

/-- The spellings of a token. -/
inductive Token.Written : Token → List Char → Prop
  | leftBrace : Written .leftBrace ['\x7b']
  | rightBrace : Written .rightBrace ['\x7d']
  | leftBracket : Written .leftBracket ['[']
  | rightBracket : Written .rightBracket [']']
  | colon : Written .colon [':']
  | comma : Written .comma [',']
  | null : Written .null ['n', 'u', 'l', 'l']
  | trueWord : Written (.bool true) ['t', 'r', 'u', 'e']
  | falseWord : Written (.bool false) ['f', 'a', 'l', 's', 'e']
  | number {numeral : Numeral} {written : List Char} : numeral.Written written →
      Written (.number numeral) written
  | string {text : String} {written : List Char} : CharsWritten text.toList written →
      Written (.string (some text)) ('"' :: (written ++ ['"']))

/-! ## Texts -/

/-- A row of white space. -/
def Blank (blanks : List Char) : Prop :=
  ∀ c ∈ blanks, c = ' ' ∨ c = '\t' ∨ c = '\n' ∨ c = '\r'

/-- The texts of a row of tokens, with any white space around each of them. -/
inductive Spaced : List Token → List Char → Prop
  | nil {blanks : List Char} : Blank blanks → Spaced [] blanks
  | cons {token : Token} {rest : List Token} {blanks written more : List Char} :
      Blank blanks → token.Written written → Spaced rest more →
      Spaced (token :: rest) (blanks ++ (written ++ more))

/-- A text is one of the texts of a value. -/
def Value.Renders (value : Value) (text : String) : Prop := Spaced value.tokens text.toList

theorem blank_nil : Blank [] := by
  intro c member
  cases member

theorem Blank.append {one other : List Char} (first : Blank one) (second : Blank other) :
    Blank (one ++ other) := by
  intro c member
  rcases List.mem_append.1 member with inFirst | inSecond
  · exact first c inFirst
  · exact second c inSecond

theorem Spaced.prepend {tokens : List Token} {blanks text : List Char} (blank : Blank blanks)
    (spaced : Spaced tokens text) : Spaced tokens (blanks ++ text) := by
  cases spaced with
  | nil others => exact .nil (blank.append others)
  | cons others written rest =>
      rw [← List.append_assoc]
      exact .cons (blank.append others) written rest

theorem Spaced.append {tokens others : List Token} {text more : List Char}
    (first : Spaced tokens text) (second : Spaced others more) :
    Spaced (tokens ++ others) (text ++ more) := by
  induction first with
  | nil blank => exact second.prepend blank
  | cons blank written _ ih =>
      rw [List.cons_append, List.append_assoc, List.append_assoc]
      exact .cons blank written ih

theorem Token.Written.spaced {token : Token} {written : List Char}
    (spelling : token.Written written) : Spaced [token] written := by
  have spaced := Spaced.cons blank_nil spelling (.nil blank_nil)
  rwa [List.append_nil, List.nil_append] at spaced

/-! ## Layouts

What stands between the tokens of an array or an object may be laid out in any way. -/

section Layouts

variable {value : Value} {items : List Value} {key : String} {members : List (String × Value)}
  {gap lead trail text more : List Char}

theorem spaced_itemTokens_cons (blank : Blank gap) (first : Spaced value.tokens text)
    (others : Spaced (itemTokens items) more) :
    Spaced (itemTokens (value :: items)) (',' :: (gap ++ (text ++ more))) :=
  Token.Written.comma.spaced.append ((first.append others).prepend blank)

theorem spaced_array_cons (opening : Blank lead) (closing : Blank trail)
    (first : Spaced value.tokens text) (others : Spaced (itemTokens items) more) :
    Spaced (Value.array (value :: items)).tokens
      ('[' :: (lead ++ (text ++ (more ++ (trail ++ [']']))))) := by
  have closed := Token.Written.rightBracket.spaced.prepend closing
  exact Token.Written.leftBracket.spaced.append
    ((first.append (others.append closed)).prepend opening)

/-- A key, the colon behind it and a value. -/
theorem spaced_member {written : List Char} (keyed : Spaced [.string (some key)] written)
    (blank : Blank gap) (spaced : Spaced value.tokens text) :
    Spaced (.string (some key) :: .colon :: value.tokens) (written ++ ':' :: (gap ++ text)) :=
  keyed.append (Token.Written.colon.spaced.append (spaced.prepend blank))

theorem spaced_memberTokens_cons (blank : Blank gap)
    (first : Spaced (.string (some key) :: .colon :: value.tokens) text)
    (others : Spaced (memberTokens members) more) :
    Spaced (memberTokens ((key, value) :: members)) (',' :: (gap ++ (text ++ more))) :=
  Token.Written.comma.spaced.append ((first.append others).prepend blank)

theorem spaced_object_cons (opening : Blank lead) (closing : Blank trail)
    (first : Spaced (.string (some key) :: .colon :: value.tokens) text)
    (others : Spaced (memberTokens members) more) :
    Spaced (Value.object ((key, value) :: members)).tokens
      ('\x7b' :: (lead ++ (text ++ (more ++ (trail ++ ['\x7d']))))) := by
  have closed := Token.Written.rightBrace.spaced.prepend closing
  exact Token.Written.leftBrace.spaced.append
    ((first.append (others.append closed)).prepend opening)

end Layouts

end ShadowLint.Json
