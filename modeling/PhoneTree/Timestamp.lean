import PhoneTree.Text.Blank
import PhoneTree.Text.Decimal

namespace PhoneTree

/-- A point in time. -/
structure Timestamp where
  nanos : Int
  deriving DecidableEq, Inhabited

namespace Timestamp

/-- The time of a number of milliseconds. -/
def ofMillis (millis : Int) : Timestamp :=
  ⟨millis * 1000000⟩

/-- The whole milliseconds, rounded down. -/
def millis (t : Timestamp) : Int :=
  t.nanos.fdiv 1000000

/-- The time a number of seconds later. -/
def plusSeconds (t : Timestamp) (seconds : Int) : Timestamp :=
  ⟨t.nanos + seconds * 1000000000⟩

/-- The whole seconds from `earlier` to `t`, rounded toward zero. -/
def secondsSince (t earlier : Timestamp) : Int :=
  (t.nanos - earlier.nanos).tdiv 1000000000

/-- The whole milliseconds from `earlier` to `t`, rounded toward zero. -/
def millisSince (t earlier : Timestamp) : Int :=
  (t.nanos - earlier.nanos).tdiv 1000000

instance : LE Timestamp := ⟨fun a b => a.nanos ≤ b.nanos⟩

instance : LT Timestamp := ⟨fun a b => a.nanos < b.nanos⟩

instance (a b : Timestamp) : Decidable (a ≤ b) := inferInstanceAs (Decidable (a.nanos ≤ b.nanos))

instance (a b : Timestamp) : Decidable (a < b) := inferInstanceAs (Decidable (a.nanos < b.nanos))

end Timestamp

/-- A day of the Gregorian calendar. -/
structure CivilDate where
  year : Int
  month : Nat
  day : Nat

namespace CivilDate

/-- The days from the start of 1970 to a date. Years begin in March, so that the leap day is the
last one. -/
def toDays (date : CivilDate) : Int :=
  let year := if date.month ≤ 2 then date.year - 1 else date.year
  let era := year.fdiv 400
  let yearOfEra := year - era * 400
  let monthFromMarch : Int := (date.month + 9) % 12
  let dayOfYear := (153 * monthFromMarch + 2) / 5 + date.day - 1
  let dayOfEra := yearOfEra * 365 + yearOfEra / 4 - yearOfEra / 100 + dayOfYear
  era * 146097 + dayOfEra - 719468

/-- The date a number of days after the start of 1970. -/
def ofDays (days : Int) : CivilDate :=
  let shifted := days + 719468
  let era := shifted.fdiv 146097
  let dayOfEra := shifted - era * 146097
  let yearOfEra := (dayOfEra - dayOfEra / 1460 + dayOfEra / 36524 - dayOfEra / 146096) / 365
  let dayOfYear := dayOfEra - (365 * yearOfEra + yearOfEra / 4 - yearOfEra / 100)
  let monthFromMarch := (5 * dayOfYear + 2) / 153
  let day := dayOfYear - (153 * monthFromMarch + 2) / 5 + 1
  let month := if monthFromMarch < 10 then monthFromMarch + 3 else monthFromMarch - 9
  let year := yearOfEra + era * 400
  ⟨if month ≤ 2 then year + 1 else year, month.toNat, day.toNat⟩

/-- Whether a year of the Gregorian calendar has a leap day. -/
def isLeap (year : Int) : Bool :=
  year % 4 == 0 && (year % 100 != 0 || year % 400 == 0)

def monthLength (year : Int) (month : Nat) : Nat :=
  if month = 2 then if isLeap year then 29 else 28
  else if month = 4 || month = 6 || month = 9 || month = 11 then 30
  else 31

/-- Whether there is such a day in the calendar. -/
def isValid (date : CivilDate) : Bool :=
  1 ≤ date.month && date.month ≤ 12 && 1 ≤ date.day && date.day ≤ monthLength date.year date.month

end CivilDate

namespace Timestamp

open Text

/-- A year with at least four digits, and a sign outside 0 to 9999. -/
def yearChars (year : Int) : List Char :=
  if 0 ≤ year && year ≤ 9999 then Decimal.padded 4 year.natAbs
  else (if year < 0 then '-' else '+') :: Decimal.padded 4 year.natAbs

/-- The fraction of a second with 0, 3, 6 or 9 digits, as few as are exact. -/
def fractionChars (nanos : Nat) : List Char :=
  if nanos = 0 then []
  else if nanos % 1000000 = 0 then '.' :: Decimal.padded 3 (nanos / 1000000)
  else if nanos % 1000 = 0 then '.' :: Decimal.padded 6 (nanos / 1000)
  else '.' :: Decimal.padded 9 nanos

/-- The RFC 3339 text in UTC. -/
def text (t : Timestamp) : String :=
  let seconds := t.nanos.fdiv 1000000000
  let days := seconds.fdiv 86400
  let ofDay := (seconds - days * 86400).toNat
  let date := CivilDate.ofDays days
  .ofList (yearChars date.year ++ '-' :: Decimal.padded 2 date.month
    ++ '-' :: Decimal.padded 2 date.day ++ 'T' :: Decimal.padded 2 (ofDay / 3600)
    ++ ':' :: Decimal.padded 2 (ofDay / 60 % 60) ++ ':' :: Decimal.padded 2 (ofDay % 60)
    ++ fractionChars (t.nanos - seconds * 1000000000).toNat ++ ['Z'])

/-- Reads at most `limit` digits, and at least one, after white space. -/
def readNumber (limit : Nat) (chars : List Char) : Option (Nat × List Char) :=
  let chars := chars.dropWhile isSpace
  let digits := (chars.takeWhile Decimal.isDigit).take limit
  if digits.isEmpty then none else some (Decimal.value digits, chars.drop digits.length)

/-- Reads one given character after white space. -/
def readMark (mark : Char) (chars : List Char) : Option (List Char) :=
  match chars.dropWhile isSpace with
  | c :: rest => if c = mark then some rest else none
  | [] => none

/-- Reads a year; one with a sign may have more than four digits. -/
def readYear (chars : List Char) : Option (Int × List Char) :=
  match chars.dropWhile isSpace with
  | '+' :: rest => (readNumber 9 rest).map fun (n, rest) => ((n : Int), rest)
  | '-' :: rest => (readNumber 9 rest).map fun (n, rest) => (-(n : Int), rest)
  | rest => (readNumber 4 rest).map fun (n, rest) => ((n : Int), rest)

/-- Reads an optional fraction of a second as nanoseconds. Digits after the ninth are dropped. -/
def readFraction (chars : List Char) : Option (Nat × List Char) :=
  match chars with
  | '.' :: rest =>
      let digits := rest.takeWhile Decimal.isDigit
      let kept := digits.take 9
      if digits.isEmpty then none
      else some (Decimal.value kept * Nat.pow 10 (9 - kept.length), rest.drop digits.length)
  | _ => some (0, chars)

/-- Reads the offset from UTC in seconds, with or without a colon. -/
def readOffset (chars : List Char) : Option (Int × List Char) :=
  match chars.dropWhile isSpace with
  | 'Z' :: rest => some (0, rest)
  | 'z' :: rest => some (0, rest)
  | sign :: a :: b :: rest => do
      guard (sign == '+' || sign == '-')
      let hours ← Decimal.ofDigits? [a, b]
      let rest := rest.dropWhile fun c => c == ':' || isSpace c
      match rest with
      | c :: d :: rest => do
          let minutes ← Decimal.ofDigits? [c, d]
          guard (minutes < 60 && hours < 24)
          let seconds : Int := hours * 3600 + minutes * 60
          return (if sign == '-' then -seconds else seconds, rest)
      | _ => none
  | _ => none

/-- Reads an RFC 3339 text with any offset. The years of the calendar are limited. -/
def parse? (text : String) : Option Timestamp := do
  let (year, rest) ← readYear text.toList
  let (month, rest) ← readNumber 2 (← readMark '-' rest)
  let (day, rest) ← readNumber 2 (← readMark '-' rest)
  let rest ← match rest with
    | c :: rest => if c = 'T' || c = 't' || c = ' ' then some rest else none
    | [] => none
  let (hour, rest) ← readNumber 2 rest
  let (minute, rest) ← readNumber 2 (← readMark ':' rest)
  let (second, rest) ← readNumber 2 (← readMark ':' rest)
  let (fraction, rest) ← readFraction rest
  let (offset, rest) ← readOffset rest
  let date : CivilDate := ⟨year, month, day⟩
  guard (-262143 ≤ year && year ≤ 262142)
  guard (date.isValid && hour < 24 && minute < 60 && second < 60)
  guard (rest.all isSpace)
  let seconds := date.toDays * 86400 + (hour * 3600 + minute * 60 + second : Nat) - offset
  return ⟨seconds * 1000000000 + fraction⟩

end Timestamp

end PhoneTree
