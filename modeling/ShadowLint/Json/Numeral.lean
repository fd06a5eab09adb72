/-!
# Numerals of JSON texts

A numeral keeps the digits of a number as they are written.  Its value is an integer if
it has neither a fraction nor an exponent and fits 64 bits, and a floating-point number
otherwise; minus zero is a floating-point number too.

The floating-point value is made in two rounding steps: the leading digits that fit 64
bits form a significand, which is then multiplied or divided by a power of ten.  A
numeral whose value exceeds every finite number has none.
-/

namespace ShadowLint.Json

/-- The exponent of a numeral as written. -/
structure Exponent where
  negative : Bool
  digits : List Char
  deriving DecidableEq, Repr

/-- A number as written. -/
structure Numeral where
  negative : Bool
  whole : List Char
  /-- The digits after the point; there are none without a point. -/
  fraction : List Char
  exponent : Option Exponent
  deriving DecidableEq, Repr

/-- The value of a numeral. -/
inductive NumberValue where
  | integer (value : Int)
  | float (value : Float)
  deriving Repr

/-- The value of a decimal digit. -/
def digitValue (c : Char) : Nat := c.toNat - 48

/-- The number that a row of decimal digits stands for. -/
def ofDigits (digits : List Char) : Nat :=
  digits.foldl (fun value c => value * 10 + digitValue c) 0

/-- Appends digits to a number as long as it fits 64 bits, and returns the digits left over. -/
def absorb (value : Nat) : List Char → Nat × List Char
  | [] => (value, [])
  | c :: rest =>
      if value * 10 + digitValue c < Nat.pow 2 64 then absorb (value * 10 + digitValue c) rest
      else (value, c :: rest)

/-- `x · 10 ^ exponent`, or `none` where that exceeds every finite number.  Powers of ten
beyond the largest one that a floating-point number can hold are divided out one by one. -/
def scaled? (x : Float) (exponent : Int) : Option Float :=
  if exponent.natAbs ≤ 308 then
    let power := Float.ofScientific 1 false exponent.natAbs
    if exponent < 0 then some (x / power)
    else if (x * power).isInf then none
    else some (x * power)
  else if x == 0.0 then some x
  else if 0 < exponent then none
  else scaled? (x / Float.ofScientific 1 false 308) (exponent + 308)
termination_by exponent.natAbs
decreasing_by omega

namespace Numeral

/-- The numeral of a natural number. -/
def ofNat (n : Nat) : Numeral :=
  { negative := false, whole := Nat.toDigits 10 n, fraction := [], exponent := none }

/-- Whether a numeral has neither a fraction nor an exponent. -/
def isWhole (n : Numeral) : Bool := n.fraction.isEmpty && n.exponent.isNone

/-- The characters of a numeral. -/
def text (n : Numeral) : List Char :=
  (if n.negative then ['-'] else []) ++ n.whole
    ++ (if n.fraction.isEmpty then [] else '.' :: n.fraction)
    ++ match n.exponent with
      | none => []
      | some e => 'e' :: (if e.negative then ['-'] else []) ++ e.digits

/-- The magnitude of a numeral as a floating-point number. -/
def magnitude? (n : Numeral) : Option Float :=
  let (significand, spare) := absorb 0 n.whole
  let (significand, unused) := absorb significand n.fraction
  let shift : Int := spare.length - (n.fraction.length - unused.length : Nat)
  let x := significand.toUInt64.toFloat
  match n.exponent with
  | none => scaled? x shift
  | some e =>
      let power := ofDigits e.digits
      if power < Nat.pow 2 31 then scaled? x (if e.negative then shift - power else shift + power)
      else if significand ≠ 0 && !e.negative then none
      else some 0.0

/-- The numeral as a floating-point number. -/
def float? (n : Numeral) : Option NumberValue :=
  n.magnitude?.map fun x => .float (if n.negative then -x else x)

/-- The value of a numeral, or `none` where it exceeds every finite number. -/
def value? (n : Numeral) : Option NumberValue :=
  if n.isWhole then
    let magnitude := ofDigits n.whole
    if n.negative then
      if 0 < magnitude && magnitude ≤ Nat.pow 2 63 then some (.integer (-magnitude)) else n.float?
    else
      if magnitude < Nat.pow 2 64 then some (.integer magnitude) else n.float?
  else n.float?

end Numeral

end ShadowLint.Json
