import ShadowLint.Text.Digit
import ShadowLint.Toml.Value

/-!
# Unquoted TOML values

Booleans, numbers and date-times stand without quotes.  `scalar?` reads the whole of such
a text; it is none of these if no reader takes it.

The underscores of a number stand between digits, and only the characters next to them are
looked at.  So an integer with underscores may hold characters that are no digits of its
base; such an integer has no value.  Neither has one in base sixteen, eight or two without
any digit.
-/

namespace ShadowLint.Toml

/-! ## Digits -/

/-- The bases in which an integer is written behind a zero and a letter. -/
inductive Base where
  | binary
  | octal
  | hexadecimal
  deriving DecidableEq, Repr

namespace Base

/-- The base that a letter behind a zero stands for. -/
def ofLetter? : Char → Option Base
  | 'b' => some binary
  | 'o' => some octal
  | 'x' => some hexadecimal
  | _ => none

/-- The number of digits of a base. -/
def size : Base → Nat
  | binary => 2
  | octal => 8
  | hexadecimal => 16

end Base

/-- Whether a character is a digit of a base. -/
def Base.isDigit (base : Base) (c : Char) : Bool :=
  (Text.hexValue? c).any (· < base.size)

/-- Whether every underscore of a text stands between two digits; `behindDigit` says whether
the text itself follows a digit. -/
def groupedBehind (isDigit : Char → Bool) (behindDigit : Bool) : List Char → Bool
  | [] => true
  | '_' :: rest =>
      behindDigit && rest.head?.any isDigit && groupedBehind isDigit false rest
  | c :: rest => groupedBehind isDigit (isDigit c) rest

/-- Whether every underscore of a number without its sign stands between two digits. -/
def grouped (isDigit : Char → Bool) (text : List Char) : Bool :=
  groupedBehind isDigit false text

/-- The characters of a number without its underscores. -/
def ungrouped (text : List Char) : List Char :=
  text.filter fun c => c ≠ '_'

/-- The decimal digits of a run of digits and underscores.  There is at least one. -/
def digits? (text : List Char) : Option (List Char) :=
  if text.all (fun c => c.isDigit || c = '_') && text.any Char.isDigit then
    some (ungrouped text)
  else none

/-! ## Signs -/

/-- The sign of a number. -/
inductive Sign where
  | plus
  | minus
  deriving DecidableEq, Repr

/-- The sign at the head of a text, and the text behind it. -/
def splitSign : List Char → Option Sign × List Char
  | '-' :: rest => (some .minus, rest)
  | '+' :: rest => (some .plus, rest)
  | text => (none, text)

/-- A natural number with a sign. -/
def signed (sign : Option Sign) (magnitude : Nat) : Int :=
  if sign = some .minus then -(magnitude : Int) else magnitude

/-! ## Integers -/

/-- An integer behind the letter of its base. -/
def basedInteger? (base : Base) (text : List Char) : Option Value :=
  if text.all (fun c => base.isDigit c || c = '_') && grouped base.isDigit text then
    some (.integer (if text.isEmpty then none else some (Text.numberOf base.size (ungrouped text))))
  else none

/-- A decimal integer behind its sign.  No zero stands in front of other digits. -/
def decimalInteger? (sign : Option Sign) (text : List Char) : Option Value :=
  if text.isEmpty || (text.head? = some '0' && text ≠ ['0']) then none
  else if grouped Base.hexadecimal.isDigit text then
    some (.integer ((digits? text).map fun digits => signed sign (Text.numberOf 10 digits)))
  else none

/-! ## Floating-point numbers -/

/-- `digits · 10 ^ exponent` as a floating-point number, or `none` where that exceeds every
finite one.  Powers that are out of reach are not computed. -/
def floatOf (digits : List Char) (exponent : Int) : Option Float :=
  let significand := Text.numberOf 10 digits
  let leading := exponent + (toString significand).length
  if significand = 0 then some 0.0
  else if leading < -400 then some 0.0
  else if 400 < leading then none
  else
    let value := Float.ofScientific significand (exponent < 0) exponent.natAbs
    if value.isInf then none else some value

/-- The digits in front of the point, without a zero in front of another digit. -/
def wholeDigits? (text : List Char) : Option (List Char) :=
  match digits? text with
  | some ('0' :: _ :: _) => none
  | digits => digits

/-- The exponent behind its letter. -/
def exponent? (text : List Char) : Option Int :=
  let (sign, text) := splitSign text
  (digits? text).map fun digits => signed sign (Text.numberOf 10 digits)

/-- Whether a character ends the digits in front of the point. -/
def isFloatMark (c : Char) : Bool := c = '.' || c = 'e' || c = 'E'

/-- A floating-point number without its sign: a fraction, an exponent, or both follow the
whole digits. -/
def magnitude? (text : List Char) : Option (Option Float) :=
  let isLetter (c : Char) : Bool := c = 'e' || c = 'E'
  match text.span fun c => !isFloatMark c with
  | (whole, '.' :: rest) =>
      match rest.span fun c => !isLetter c with
      | (fraction, []) => do
          let whole ← wholeDigits? whole
          let fraction ← digits? fraction
          return floatOf (whole ++ fraction) (-(fraction.length : Int))
      | (fraction, _ :: power) => do
          let whole ← wholeDigits? whole
          let fraction ← digits? fraction
          let exponent ← exponent? power
          return floatOf (whole ++ fraction) (exponent - fraction.length)
  | (whole, _ :: power) => do
      let whole ← wholeDigits? whole
      let exponent ← exponent? power
      return floatOf whole exponent
  | _ => none

/-- A floating-point number with a sign. -/
def signedFloat (sign : Option Sign) (value : Float) : Float :=
  if sign = some .minus then -value else value

/-- A floating-point number in digits behind its sign. -/
def float? (sign : Option Sign) (text : List Char) : Option Value :=
  if grouped Char.isDigit text then
    (magnitude? text).map fun value => .float (value.map (signedFloat sign))
  else none

/-! ## All together -/

/-- A number or a date-time whose first digits are decimal; what stands behind these digits
says which of them it is. -/
def decimal? (sign : Option Sign) (text : List Char) : Option Value :=
  match text.dropWhile Char.isDigit with
  | [] => decimalInteger? sign text
  | c :: rest =>
      if c = '-' || c = ':' then
        if sign.isSome then none else (DateTime.read? text).map Value.dateTime
      else if (c :: rest).contains ' ' then none
      else if (c :: rest).any isFloatMark then float? sign text
      else if c = '_' then decimalInteger? sign text
      else none

/-- A value behind a sign, if there is one: the words for infinity and for no number, or
digits. -/
def signedScalar? (sign : Option Sign) (text : List Char) : Option Value :=
  if text = ['i', 'n', 'f'] then some (.float (some (signedFloat sign (1.0 / 0.0))))
  else if text = ['n', 'a', 'n'] then some (.float (some (signedFloat sign (0.0 / 0.0))))
  else decimal? sign text

/-- The value that an unquoted text stands for. -/
def scalar? (text : List Char) : Option Value :=
  if text = ['t', 'r', 'u', 'e'] then some (.boolean true)
  else if text = ['f', 'a', 'l', 's', 'e'] then some (.boolean false)
  else
    match text with
    | '0' :: c :: digits =>
        match Base.ofLetter? c with
        | some base => basedInteger? base digits
        | none => decimal? none text
    | _ =>
        match splitSign text with
        | (sign, text) => signedScalar? sign text

end ShadowLint.Toml
