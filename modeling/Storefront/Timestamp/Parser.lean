import Storefront.Timestamp
import Storefront.Text.Blank

/-!
# Reading timestamps

The reader accepts more than the writer makes: fields without padding, blanks before fields and
separators, a small or capital `t` or one blank between date and time, any number of fraction digits
of which nine count, and `Z`, `UTC` or an offset of hours and minutes.
-/

namespace Storefront.Timestamp

/-- A number of at least one and at most `width` digits, and what follows it. -/
def readNumber? (width : Nat) (cs : List Char) : Option (Nat × List Char) :=
  let ds := (cs.take width).takeWhile Text.isDigit
  (Text.ofDigits? ds).map (·, cs.drop ds.length)

/-- A number after blanks. -/
def readField? (width : Nat) (cs : List Char) : Option (Nat × List Char) :=
  readNumber? width (Text.trimLeft cs)

/-- A year after blanks: up to four digits, or a sign and any number of digits. -/
def readYear? (cs : List Char) : Option (Int × List Char) :=
  match Text.trimLeft cs with
  | '-' :: r => (readNumber? r.length r).map fun (n, r) => (-n, r)
  | '+' :: r => (readNumber? r.length r).map fun (n, r) => (n, r)
  | r => (readNumber? 4 r).map fun (n, r) => (n, r)

/-- A separator after blanks. -/
def readMark? (mark : Char) (cs : List Char) : Option (List Char) :=
  match Text.trimLeft cs with
  | c :: r => if c = mark then some r else none
  | [] => none

/-- What follows the mark between date and time. -/
def readBetween? : List Char → Option (List Char)
  | c :: r => if c = 'T' ∨ c = 't' ∨ c = ' ' then some r else none
  | [] => none

/-- The nanoseconds of an optional fraction; digits after the ninth do not count. -/
def readFraction? : List Char → Option (Nat × List Char)
  | '.' :: r =>
    (readNumber? 9 r).map fun (n, rest) =>
      (n * Nat.pow 10 (9 - (r.length - rest.length)), rest.dropWhile Text.isDigit)
  | r => some (0, r)

/-- Two digits that lie in a row. -/
def readPair? : List Char → Option (Nat × List Char)
  | c :: d :: r => (Text.ofDigits? [c, d]).map (·, r)
  | _ => none

/-- The minutes by which the clock is ahead of universal time. -/
def readOffset? (cs : List Char) : Option (Int × List Char) :=
  match cs with
  | 'Z' :: r | 'z' :: r => some (0, r)
  | sign :: r =>
    if ((cs.take 3).map Char.toLower) = ['u', 't', 'c'] then some (0, cs.drop 3)
    else if sign = '+' ∨ sign = '-' ∨ sign = '\u2212' then do
      let (hours, r) ← readPair? r
      let (minutes, r) ← readPair? (r.dropWhile fun c => c = ':' || Text.isBlank c)
      if minutes < 60 ∧ hours < 24 then
        let offset : Int := hours * 60 + minutes
        some (if sign = '+' then offset else -offset, r)
      else none
    else none
  | [] => none

/-- The moment that a text denotes. -/
def parse? (text : String) : Option Timestamp := do
  let (year, r) ← readYear? text.toList
  let (month, r) ← readField? 2 (← readMark? '-' r)
  let (day, r) ← readField? 2 (← readMark? '-' r)
  let (hour, r) ← readField? 2 (← readBetween? r)
  let (minute, r) ← readField? 2 (← readMark? ':' r)
  let (second, r) ← readField? 2 (← readMark? ':' r)
  let (nanos, r) ← readFraction? r
  let (offset, r) ← readOffset? (Text.trimLeft r)
  let reading ← ofFields? year month day hour minute second nanos
  if Text.trimLeft r = [] then reading.ofLocal? offset else none

end Storefront.Timestamp
