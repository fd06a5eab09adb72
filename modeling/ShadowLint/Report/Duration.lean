/-!
# Durations

A duration is written in the largest of four units of which it holds at least one, with
as many places behind the point as it needs.
-/

namespace ShadowLint.Report

/-- A unit of time: its name, and how many powers of ten of nanoseconds it holds. -/
structure TimeUnit where
  name : String
  places : Nat
  deriving DecidableEq, Repr

/-- The units above the smallest, from the largest on. -/
def timeUnits : List TimeUnit := [⟨"s", 9⟩, ⟨"ms", 6⟩, ⟨"µs", 3⟩]

/-- The unit that a number of nanoseconds is written in. -/
def unitOf (nanoseconds : Nat) : TimeUnit :=
  (timeUnits.find? fun unit => Nat.pow 10 unit.places ≤ nanoseconds).getD ⟨"ns", 0⟩

/-- The digits of a number behind a point, with zeros in front and none at the end. -/
def decimalPlaces (count n : Nat) : String :=
  let digits := Nat.toDigits 10 n
  let padded := List.replicate (count - digits.length) '0' ++ digits
  String.ofList (padded.reverse.dropWhile (· = '0')).reverse

/-- A number of nanoseconds in its unit. -/
def durationText (nanoseconds : Nat) : String :=
  let unit := unitOf nanoseconds
  let rest := nanoseconds % Nat.pow 10 unit.places
  toString (nanoseconds / Nat.pow 10 unit.places)
    ++ (if rest = 0 then "" else "." ++ decimalPlaces unit.places rest)
    ++ unit.name

end ShadowLint.Report
