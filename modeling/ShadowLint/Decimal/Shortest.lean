/-!
# The shortest decimal that reads back

A finite binary floating-point number stands for every real number that rounds to it.
`shortest` finds, among the decimals in that interval, one with the fewest digits, and of
those the one nearest to the number itself.  All arithmetic is exact: the number and the
ends of its interval are natural multiples of one power of two.
-/

namespace ShadowLint.Decimal

/-- The decimal number `digits · 10 ^ exponent`. -/
structure Number where
  digits : Nat
  exponent : Int
  deriving DecidableEq, Repr

/-- A finite positive number with the interval of the reals that round to it: the value
and both ends are these naturals divided by `scale`. -/
structure Rounding where
  value : Nat
  low : Nat
  high : Nat
  scale : Nat
  /-- Whether the ends themselves round to the number. -/
  closed : Bool
  deriving Repr

/-- The interval of `mantissa · 2 ^ exponent`; `narrow` says that the next number below is
only half as far away as the next one above. -/
def Rounding.ofBinary (mantissa : Nat) (exponent : Int) (narrow : Bool) : Rounding :=
  let up := Nat.pow 2 (exponent - 2).toNat
  { value := 4 * mantissa * up
    low := (if narrow then 4 * mantissa - 1 else 4 * mantissa - 2) * up
    high := (4 * mantissa + 2) * up
    scale := Nat.pow 2 (2 - exponent).toNat
    closed := mantissa % 2 = 0 }

/-- Whether the decimal `digits · 10 ^ exponent` lies in the interval. -/
def Rounding.holds (r : Rounding) (digits : Nat) (exponent : Int) : Bool :=
  let point := digits * Nat.pow 10 exponent.toNat * r.scale
  let unit := Nat.pow 10 (-exponent).toNat
  if r.closed then r.low * unit ≤ point && point ≤ r.high * unit
  else r.low * unit < point && point < r.high * unit

/-- The multiple of `10 ^ exponent` nearest to the value among those in the interval, if any. -/
def Rounding.nearest? (r : Rounding) (exponent : Int) : Option Nat :=
  let unit := Nat.pow 10 (-exponent).toNat
  let step := Nat.pow 10 exponent.toNat * r.scale
  let below := r.value * unit / step
  let twice := 2 * (r.value * unit % step)
  let first := if twice < step || twice = step && below % 2 = 0 then below else below + 1
  let second := if first = below then below + 1 else below
  if r.holds first exponent then some first
  else if r.holds second exponent then some second
  else none

/-- The exponent of the leading digit of `value / scale`, looked for from `exponent` down. -/
def leadingExponent (value scale : Nat) : Nat → Int → Int
  | 0, exponent => exponent
  | fuel + 1, exponent =>
      if Nat.pow 10 exponent.toNat * scale ≤ value * Nat.pow 10 (-exponent).toNat then exponent
      else leadingExponent value scale fuel (exponent - 1)

/-- The shortest decimal of a rounding whose leading digit has the exponent `leading`, with at
least `count` digits. -/
def Rounding.shortestFrom (r : Rounding) (leading : Int) : Nat → Nat → Number
  | 0, count => ⟨(r.nearest? (leading - count + 1)).getD 0, leading - count + 1⟩
  | fuel + 1, count =>
      match r.nearest? (leading - count + 1) with
      | some digits => ⟨digits, leading - count + 1⟩
      | none => r.shortestFrom leading fuel (count + 1)

/-- The decimal without trailing zeros among its digits. -/
def Number.trimmed (d : Number) : Nat → Number
  | 0 => d
  | fuel + 1 =>
      if d.digits % 10 = 0 && d.digits ≠ 0 then
        Number.trimmed ⟨d.digits / 10, d.exponent + 1⟩ fuel
      else d

/-- The shortest decimal in the interval of a rounding. -/
def Rounding.shortest (r : Rounding) : Number :=
  let leading := leadingExponent r.value r.scale 640 309
  (r.shortestFrom leading 17 1).trimmed 20

/-- A floating-point number taken apart. -/
inductive Binary where
  | notANumber
  | infinite (negative : Bool)
  | zero (negative : Bool)
  | finite (negative : Bool) (magnitude : Rounding)
  deriving Repr

/-- The parts of a floating-point number in its 64 bits. -/
def Binary.ofFloat (x : Float) : Binary :=
  let bits : Nat := x.toBits.toNat
  let negative := bits / Nat.pow 2 63 = 1
  let biased : Nat := bits / Nat.pow 2 52 % Nat.pow 2 11
  let fraction := bits % Nat.pow 2 52
  if biased = 2047 then
    if fraction = 0 then .infinite negative else .notANumber
  else if biased = 0 then
    if fraction = 0 then .zero negative
    else .finite negative (.ofBinary fraction (-1074) false)
  else
    .finite negative
      (.ofBinary (Nat.pow 2 52 + fraction) ((biased : Int) - 1075) (fraction = 0 && biased ≠ 1))

end ShadowLint.Decimal
