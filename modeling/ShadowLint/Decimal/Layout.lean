import ShadowLint.Decimal.Shortest

/-!
# Written forms of floating-point numbers

A number is written with the digits of its shortest decimal.  A `Layout` says for which
exponents the digits stand in their places around the decimal point; outside that range
one digit stands before the point and a power of ten follows.  At least one digit always
stands after the point of a number written in places.
-/

namespace ShadowLint.Decimal

/-- When a number is written without a power of ten. -/
structure Layout where
  /-- Whether the leading digit's exponent allows the digits to stand in their places. -/
  placed : Int → Bool

/-- Every number has its digits in their places. -/
def Layout.places : Layout := ⟨fun _ => true⟩

/-- Powers of ten are written for numbers from `10 ^ 16` up and below `10 ^ (-5)`. -/
def Layout.powers : Layout := ⟨fun exponent => -5 ≤ exponent && exponent ≤ 15⟩

/-- The digits of a decimal in their places, with a point and at least one digit on each side. -/
def placedText (digits : String) (exponent : Int) : String :=
  let count := digits.length
  if 0 ≤ exponent then
    digits ++ String.ofList (List.replicate exponent.toNat '0') ++ ".0"
  else
    let after := (-exponent).toNat
    if after < count then
      String.ofList (digits.toList.take (count - after)) ++ "."
        ++ String.ofList (digits.toList.drop (count - after))
    else
      "0." ++ String.ofList (List.replicate (after - count) '0') ++ digits

/-- One digit, the others behind a point, and a power of ten with its sign. -/
def powerText (digits : String) (leading : Int) : String :=
  String.ofList (digits.toList.take 1)
    ++ (if digits.length = 1 then "" else "." ++ String.ofList (digits.toList.drop 1))
    ++ "e" ++ (if leading < 0 then "-" else "+") ++ toString leading.natAbs

/-- A decimal in a layout. -/
def Layout.write (layout : Layout) (d : Number) : String :=
  let digits := toString d.digits
  let leading := d.exponent + digits.length - 1
  if layout.placed leading then placedText digits d.exponent
  else powerText digits leading

/-- A floating-point number in a layout. -/
def Layout.float (layout : Layout) (x : Float) : String :=
  let sign (negative : Bool) := if negative then "-" else ""
  match Binary.ofFloat x with
  | .notANumber => "NaN"
  | .infinite negative => sign negative ++ "inf"
  | .zero negative => sign negative ++ "0.0"
  | .finite negative magnitude => sign negative ++ layout.write magnitude.shortest

end ShadowLint.Decimal
