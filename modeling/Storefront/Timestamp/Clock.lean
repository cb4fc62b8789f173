import Storefront.Timestamp

/-!
# Reading a clock

A clock counts seconds from the start of 1970 and leaves out leap seconds. Days are cut into eras of
400 years, each of which has the same number of days and starts on the first of March, so that a leap
day is the last day of its year.
-/

namespace Storefront.Timestamp

/-- The days of 400 years. -/
def daysInEra : Int := 146097

/-- The days from the start of the era in which 1970 lies to the start of 1970. -/
def daysBeforeEpoch : Int := 719468

/-- The year of its era in which a day of the era lies. -/
def yearOfEra (day : Nat) : Nat := (day - day / 1460 + day / 36524 - day / 146096) / 365

/-- The day, from 0, of a year that starts in March. -/
def dayOfYear (day : Nat) : Nat :=
  let year := yearOfEra day
  day - (365 * year + year / 4 - year / 100)

/-- The month, from 0 for March, in which a day of such a year lies. -/
def monthFromMarch (day : Nat) : Nat := (5 * day + 2) / 153

/-- The year, month and day a number of days after the start of 1970. -/
def civilDay (days : Int) : Int × Nat × Nat :=
  let count := days + daysBeforeEpoch
  let dayOfEra := (count % daysInEra).toNat
  let day := dayOfYear dayOfEra
  let month := monthFromMarch day
  let year := count / daysInEra * 400 + yearOfEra dayOfEra
  (if month < 10 then year else year + 1, if month < 10 then month + 3 else month - 9,
    day - (153 * month + 2) / 5 + 1)

/-- The moment of a reading, if its year is in range. -/
def ofClock? (seconds : Int) (nanos : Nat) : Option Timestamp :=
  let (year, month, day) := civilDay (seconds / 86400)
  let second := (seconds % 86400).toNat
  ofFields? year month day (second / 3600) (second / 60 % 60) (second % 60) nanos

end Storefront.Timestamp
