/-!
# Dates and times

A date-time has a date, a time of day, or both; with both it may also say how far local
time is from universal time.  Seconds may be left out.  A number that no calendar or
clock shows is refused.
-/

namespace ShadowLint.Toml

/-- A day of the calendar. -/
structure Date where
  year : Nat
  month : Nat
  day : Nat
  deriving DecidableEq, Repr

/-- A time of day. -/
structure Time where
  hour : Nat
  minute : Nat
  second : Option Nat
  /-- Billionths of a second. -/
  fraction : Option Nat
  deriving DecidableEq, Repr

/-- The distance of local time from universal time. -/
inductive Offset where
  | universal
  | ahead (hours minutes : Nat)
  | behind (hours minutes : Nat)
  deriving DecidableEq, Repr

/-- A date, a time of day, or both. -/
inductive DateTime where
  | dateOnly (date : Date)
  | timeOnly (time : Time)
  | dateAndTime (date : Date) (time : Time) (offset : Option Offset)
  deriving DecidableEq, Repr

/-! ## Reading -/

/-- The number that two digits stand for. -/
def twoDigits (a b : Char) : Option Nat :=
  if a.isDigit && b.isDigit then some ((a.toNat - 48) * 10 + (b.toNat - 48)) else none

/-- The number of days of a month. -/
def daysInMonth (year month : Nat) : Nat :=
  if month = 2 then
    if (year % 4 = 0 ∧ year % 100 ≠ 0) ∨ year % 400 = 0 then 29 else 28
  else if month = 4 ∨ month = 6 ∨ month = 9 ∨ month = 11 then 30
  else 31

/-- A number within limits. -/
def within (low high : Nat) (n : Nat) : Option Nat :=
  if low ≤ n ∧ n ≤ high then some n else none

/-- The date at the head of a text, and the rest. -/
def Date.take : List Char → Option (Date × List Char)
  | a :: b :: c :: d :: '-' :: e :: f :: '-' :: g :: h :: rest => do
      let year := (← twoDigits a b) * 100 + (← twoDigits c d)
      let month ← within 1 12 (← twoDigits e f)
      let day ← within 1 (daysInMonth year month) (← twoDigits g h)
      return (⟨year, month, day⟩, rest)
  | _ => none

/-- Billionths from the digits behind a point; digits beyond the ninth do not count. -/
def billionths (digits : List Char) : Nat :=
  ((digits.take 9) ++ List.replicate (9 - digits.length) '0').foldl
    (fun value c => value * 10 + (c.toNat - 48)) 0

/-- The time of day at the head of a text, and the rest. -/
def Time.take : List Char → Option (Time × List Char)
  | a :: b :: ':' :: c :: d :: rest => do
      let hour ← within 0 23 (← twoDigits a b)
      let minute ← within 0 59 (← twoDigits c d)
      match rest with
      | ':' :: e :: f :: rest => do
          let second ← within 0 60 (← twoDigits e f)
          match rest with
          | '.' :: rest =>
              let digits := rest.takeWhile Char.isDigit
              if digits.isEmpty then none
              else return (⟨hour, minute, some second, some (billionths digits)⟩,
                rest.drop digits.length)
          | _ => return (⟨hour, minute, some second, none⟩, rest)
      | _ => return (⟨hour, minute, none, none⟩, rest)
  | _ => none

/-- The hours and minutes of an offset. -/
def offsetParts : List Char → Option (Nat × Nat)
  | [a, b, ':', c, d] => do
      return (← within 0 23 (← twoDigits a b), ← within 0 59 (← twoDigits c d))
  | _ => none

/-- The offset that ends a date-time, if there is one. -/
def Offset.read? : List Char → Option (Option Offset)
  | [] => some none
  | ['Z'] => some (some .universal)
  | ['z'] => some (some .universal)
  | '+' :: rest => (offsetParts rest).map fun (hours, minutes) => some (.ahead hours minutes)
  | '-' :: rest => (offsetParts rest).map fun (hours, minutes) => some (.behind hours minutes)
  | _ => none

/-- The date-time that a whole text stands for. -/
def DateTime.read? (text : List Char) : Option DateTime :=
  match Date.take text with
  | some (date, []) => some (.dateOnly date)
  | some (date, mark :: rest) =>
      if mark = 'T' ∨ mark = 't' ∨ mark = ' ' then do
        let (time, rest) ← Time.take rest
        let offset ← Offset.read? rest
        return .dateAndTime date time offset
      else none
  | none =>
      match Time.take text with
      | some (time, []) => some (.timeOnly time)
      | _ => none

/-! ## Writing -/

/-- A number with at least `width` digits. -/
def padded (width n : Nat) : String :=
  let digits := Nat.toDigits 10 n
  String.ofList (List.replicate (width - digits.length) '0' ++ digits)

/-- A date as it is written. -/
def Date.text (date : Date) : String :=
  padded 4 date.year ++ "-" ++ padded 2 date.month ++ "-" ++ padded 2 date.day

/-- The digits behind the point, without the zeros at their end; at least one digit stays. -/
def fractionText (fraction : Nat) : String :=
  let digits := (padded 9 fraction).toList.reverse.dropWhile (· = '0')
  if digits.isEmpty then "0" else String.ofList digits.reverse

/-- A time of day as it is written. -/
def Time.text (time : Time) : String :=
  padded 2 time.hour ++ ":" ++ padded 2 time.minute
    ++ (match time.second with | some second => ":" ++ padded 2 second | none => "")
    ++ (match time.fraction with | some fraction => "." ++ fractionText fraction | none => "")

/-- An offset as it is written.  No distance at all is written as one ahead. -/
def Offset.text : Offset → String
  | .universal => "Z"
  | .ahead hours minutes => "+" ++ padded 2 hours ++ ":" ++ padded 2 minutes
  | .behind hours minutes =>
      (if hours = 0 ∧ minutes = 0 then "+" else "-") ++ padded 2 hours ++ ":" ++ padded 2 minutes

/-- A date-time as it is written. -/
def DateTime.text : DateTime → String
  | .dateOnly date => date.text
  | .timeOnly time => time.text
  | .dateAndTime date time offset =>
      date.text ++ "T" ++ time.text
        ++ (match offset with | some offset => offset.text | none => "")

end ShadowLint.Toml
