import Storefront.Text.Digits

/-!
# Timestamps

A moment in universal time as its civil fields, with nanoseconds. The sixtieth second stands for a
leap second. Years lie in the range in which every day can be counted by a word of 32 bits; years
outside 0 to 9999 are written with a sign.
-/

namespace Storefront

namespace Timestamp

/-- Is the year a leap year of the Gregorian calendar? -/
def isLeapYear (year : Int) : Bool := year % 4 = 0 && (year % 100 ≠ 0 || year % 400 = 0)

/-- How many days the month has in that year. -/
def daysInMonth (year : Int) (month : Nat) : Nat :=
  if month = 2 then (if isLeapYear year then 29 else 28)
  else if month = 4 ∨ month = 6 ∨ month = 9 ∨ month = 11 then 30
  else 31

/-- Do the fields name a day of a year in range? -/
def IsDay (year : Int) (month day : Nat) : Prop :=
  -262143 ≤ year ∧ year ≤ 262142 ∧ 1 ≤ month ∧ month ≤ 12 ∧ 1 ≤ day ∧ day ≤ daysInMonth year month

instance (year : Int) (month day : Nat) : Decidable (IsDay year month day) :=
  inferInstanceAs (Decidable (_ ∧ _))

/-- Do the fields name a time of day? -/
def IsTime (hour minute second nanos : Nat) : Prop :=
  hour < 24 ∧ minute < 60 ∧ second ≤ 60 ∧ nanos < 1000000000

instance (hour minute second nanos : Nat) : Decidable (IsTime hour minute second nanos) :=
  inferInstanceAs (Decidable (_ ∧ _))

end Timestamp

/-- A moment in universal time. -/
structure Timestamp where
  /-- The year, which may be negative. -/
  year : Int
  /-- The month, from 1. -/
  month : Nat
  /-- The day of the month, from 1. -/
  day : Nat
  /-- The hour, from 0. -/
  hour : Nat
  /-- The minute, from 0. -/
  minute : Nat
  /-- The second, from 0; 60 is a leap second. -/
  second : Nat
  /-- The nanoseconds within the second. -/
  nanos : Nat
  isDay : Timestamp.IsDay year month day
  isTime : Timestamp.IsTime hour minute second nanos
  deriving DecidableEq

namespace Timestamp

/-- The start of 1970, the moment of a cart that was never changed. -/
def epoch : Timestamp := ⟨1970, 1, 1, 0, 0, 0, 0, by decide, by decide⟩

/-- The year with at least four digits, signed outside 0 to 9999. -/
def yearText (year : Int) : List Char :=
  if 0 ≤ year ∧ year ≤ 9999 then Text.digitsPadded 4 year.natAbs
  else (if year < 0 then '-' else '+') :: Text.digitsPadded 4 year.natAbs

/-- The fraction of a second with 0, 3, 6 or 9 digits, as few as needed. -/
def fractionText (nanos : Nat) : List Char :=
  if nanos = 0 then []
  else if nanos % 1000000 = 0 then '.' :: Text.digitsPadded 3 (nanos / 1000000)
  else if nanos % 1000 = 0 then '.' :: Text.digitsPadded 6 (nanos / 1000)
  else '.' :: Text.digitsPadded 9 nanos

/-- The characters of a timestamp, such as `2024-01-02T03:04:05.500Z`. -/
def chars (t : Timestamp) : List Char :=
  yearText t.year ++ '-' :: Text.digitsPadded 2 t.month ++ '-' :: Text.digitsPadded 2 t.day ++
    'T' :: Text.digitsPadded 2 t.hour ++ ':' :: Text.digitsPadded 2 t.minute ++
    ':' :: Text.digitsPadded 2 t.second ++ fractionText t.nanos ++ ['Z']

/-- The text of a timestamp. -/
def text (t : Timestamp) : String := String.ofList t.chars

/-- The moment with these fields, if they name one. -/
def ofFields? (year : Int) (month day hour minute second nanos : Nat) : Option Timestamp :=
  if h : IsDay year month day ∧ IsTime hour minute second nanos then
    some ⟨year, month, day, hour, minute, second, nanos, h.1, h.2⟩
  else none

/-- The day before. -/
def dayBefore (year : Int) (month day : Nat) : Int × Nat × Nat :=
  if 1 < day then (year, month, day - 1)
  else if 1 < month then (year, month - 1, daysInMonth year (month - 1))
  else (year - 1, 12, 31)

/-- The day after. -/
def dayAfter (year : Int) (month day : Nat) : Int × Nat × Nat :=
  if day < daysInMonth year month then (year, month, day + 1)
  else if month < 12 then (year, month + 1, 1)
  else (year + 1, 1, 1)

/-- The moment of a local reading whose clock is `offset` minutes ahead of universal time. -/
def ofLocal? (t : Timestamp) (offset : Int) : Option Timestamp :=
  let minutes : Int := t.hour * 60 + t.minute - offset
  let (year, month, day) :=
    if minutes < 0 then dayBefore t.year t.month t.day
    else if 1440 ≤ minutes then dayAfter t.year t.month t.day
    else (t.year, t.month, t.day)
  let ofDay := (minutes % 1440).toNat
  ofFields? year month day (ofDay / 60) (ofDay % 60) t.second t.nanos

end Timestamp

end Storefront
