import KeyedFlow.IntegerRange
import KeyedFlow.Text.Blank
import KeyedFlow.Text.Numeral

/-!
# Moments

A moment is a point in time in UTC.  It is read from a date and a time of day with an offset, such as
`2024-06-11T10:20:30.25+02:00`, and written in UTC with a `Z`.
-/

namespace KeyedFlow

/-- Seconds since the beginning of 1970, and nanoseconds; a leap second has more than a billion of these. -/
structure Moment where
  seconds : Int
  nanoseconds : Nat
  deriving DecidableEq, Repr

namespace Moment

/-- The number of days from the beginning of 1970 to a date, for years of the proleptic Gregorian calendar. -/
def daysOfDate (year : Int) (month day : Nat) : Int :=
  -- years that begin in March, so that a leap day is the last day of its year
  let y := if month ≤ 2 then year - 1 else year
  let era := y.fdiv 400
  let yearOfEra := y - era * 400
  let dayOfYear : Int := ((153 * ((month + 9) % 12) + 2) / 5 + day - 1 : Nat)
  let dayOfEra := yearOfEra * 365 + yearOfEra.fdiv 4 - yearOfEra.fdiv 100 + dayOfYear
  era * 146097 + dayOfEra - 719468

/-- The date of a number of days since the beginning of 1970. -/
def dateOfDays (days : Int) : Int × Nat × Nat :=
  let z := days + 719468
  let era := z.fdiv 146097
  let dayOfEra := (z - era * 146097).toNat
  let yearOfEra := (dayOfEra - dayOfEra / 1460 + dayOfEra / 36524 - dayOfEra / 146096) / 365
  let dayOfYear := dayOfEra - (365 * yearOfEra + yearOfEra / 4 - yearOfEra / 100)
  let m := (5 * dayOfYear + 2) / 153
  let day := dayOfYear - (153 * m + 2) / 5 + 1
  let month := if m < 10 then m + 3 else m - 9
  let year : Int := yearOfEra + era * 400
  (if month ≤ 2 then year + 1 else year, month, day)

/-- The number of days of a month. -/
def daysOfMonth (year : Int) (month : Nat) : Nat :=
  let (nextYear, nextMonth) := if month = 12 then (year + 1, 1) else (year, month + 1)
  (daysOfDate nextYear nextMonth 1 - daysOfDate year month 1).toNat

/-- Why a text is no moment. -/
inductive Fault where
  | tooShort
  | malformed
  | outOfRange
  | tooLong
  | impossible
  deriving DecidableEq, Repr

/-- The wording of a fault. -/
def Fault.message : Fault → String
  | .tooShort => "premature end of input"
  | .malformed => "input contains invalid characters"
  | .outOfRange => "input is out of range"
  | .tooLong => "trailing input"
  | .impossible => "no possible date and time matching input"

/-- What follows the blanks at the beginning. -/
def skipBlanks (s : List Char) : List Char :=
  s.dropWhile Text.isBlank

/-- The value of a row of digits. -/
def digitsValue (ds : List Char) : Nat :=
  ds.foldl (fun n d => n * 10 + Text.Numeral.digitValue d) 0

/-- A number of one digit up to `most`, and what follows. -/
def number (most : Nat) (s : List Char) : Except Fault (Nat × List Char) :=
  match (s.take most).takeWhile Char.isDigit with
  | [] => .error (if s.isEmpty then .tooShort else .malformed)
  | ds => .ok (digitsValue ds, s.drop ds.length)

/-- A character, and what follows. -/
def expect (c : Char) : List Char → Except Fault (List Char)
  | d :: s => if c = d then .ok s else .error .malformed
  | [] => .error .tooShort

/-- A number of one or two digits between two bounds, and what follows; blanks may stand before it. -/
def shortNumber (least most : Nat) (s : List Char) : Except Fault (Nat × List Char) := do
  let (n, s) ← number 2 (skipBlanks s)
  if least ≤ n ∧ n ≤ most then return (n, s) else throw .outOfRange

/-- A year as written, and what follows: up to four digits, or any number of digits behind a sign. -/
def writtenYear : List Char → Except Fault (Int × List Char)
  | '-' :: s => (number s.length s).map fun (n, s) => (-(n : Int), s)
  | '+' :: s => (number s.length s).map fun (n, s) => ((n : Int), s)
  | s => (number 4 s).map fun (n, s) => ((n : Int), s)

/-- A signed 32-bit year, and what follows. -/
def readYear (s : List Char) : Except Fault (Int × List Char) := do
  let (year, s) ← writtenYear s
  if IntegerRange.signed32.contains year then return (year, s) else throw .outOfRange

/-- The divider between date and time of day: a letter or a space. -/
def readDivider : List Char → Except Fault (List Char)
  | c :: s => if c = 'T' ∨ c = 't' ∨ c = ' ' then .ok s else .error .malformed
  | [] => .error .tooShort

/-- The nanoseconds of the digits behind a point; digits beyond the ninth do not count. -/
def readFraction : List Char → Except Fault (Nat × List Char)
  | '.' :: s => do
    let (n, rest) ← number 9 s
    return (n * Nat.pow 10 (9 - (s.length - rest.length)), rest.dropWhile Char.isDigit)
  | s => .ok (0, s)

/-- Two digits, and what follows. -/
def twoDigits : List Char → Except Fault (Nat × List Char)
  | a :: b :: s => if a.isDigit && b.isDigit then .ok (digitsValue [a, b], s) else .error .malformed
  | [c] => .error (if c.toNat < 128 then .tooShort else .malformed)
  | [] => .error .tooShort

/-- The seconds by which local time is ahead of UTC, behind its sign, and what follows. -/
def readOffset (negative : Bool) (s : List Char) : Except Fault (Int × List Char) := do
  let (hours, s) ← twoDigits s
  let (minutes, s) ← twoDigits (s.dropWhile fun c => c = ':' || Text.isBlank c)
  if 59 < minutes then throw .outOfRange
  let seconds : Int := (hours * 60 + minutes) * 60
  return (if negative then -seconds else seconds, s)

/-- The seconds by which local time is ahead of UTC, and what follows. -/
def readZone : List Char → Except Fault (Int × List Char)
  | [] => .error .tooShort
  | c :: s =>
    if c = 'Z' ∨ c = 'z' then .ok (0, s)
    else if ((c :: s).take 3).map Char.toUpper = ['U', 'T', 'C'] then .ok (0, s.drop 2)
    else if c = '+' then readOffset false s
    else if c = '-' ∨ c = '−' then readOffset true s
    else .error .malformed

/-- A date and a time of day as written, and the seconds by which they are ahead of UTC. -/
structure Reading where
  year : Int
  month : Nat
  day : Nat
  hour : Nat
  minute : Nat
  second : Nat
  nanoseconds : Nat
  ahead : Int

/-- Reads a date, a time of day and a zone.  Blanks may stand before numbers and signs between them. -/
def Reading.parse (s : List Char) : Except Fault Reading := do
  let (year, s) ← readYear (skipBlanks s)
  let s ← expect '-' (skipBlanks s)
  let (month, s) ← shortNumber 1 12 s
  let s ← expect '-' (skipBlanks s)
  let (day, s) ← shortNumber 1 31 s
  let s ← readDivider s
  let (hour, s) ← shortNumber 0 23 s
  let s ← expect ':' (skipBlanks s)
  let (minute, s) ← shortNumber 0 59 s
  let s ← expect ':' (skipBlanks s)
  -- the second 60 is a leap second
  let (second, s) ← shortNumber 0 60 s
  let (nanoseconds, s) ← readFraction s
  let (ahead, s) ← readZone (skipBlanks s)
  if skipBlanks s ≠ [] then throw .tooLong
  return { year, month, day, hour, minute, second, nanoseconds, ahead }

/-- The years of the calendar. -/
def years : IntegerRange :=
  ⟨-262143, 262142⟩

/-- Whether the date is one of the calendar and the zone is less than a day away from UTC. -/
def Reading.isPossible (r : Reading) : Bool :=
  years.contains r.year && r.day ≤ daysOfMonth r.year r.month && r.ahead.natAbs < 86400

/-- The moment of a reading. -/
def Reading.moment (r : Reading) : Moment :=
  let minutes : Int := daysOfDate r.year r.month r.day * 1440 + (r.hour * 60 + r.minute : Nat)
  if r.second = 60 then ⟨minutes * 60 + 59 - r.ahead, r.nanoseconds + 1000000000⟩
  else ⟨minutes * 60 + r.second - r.ahead, r.nanoseconds⟩

/-- Whether the date of a moment is one of the calendar; a zone can carry a moment out of it. -/
def isPossible (m : Moment) : Bool :=
  years.contains (dateOfDays (m.seconds.fdiv 86400)).1

/-- Reads a moment. -/
def parse (s : List Char) : Except Fault Moment := do
  let r ← Reading.parse s
  if !r.isPossible then throw .outOfRange
  if r.moment.isPossible then return r.moment else throw .impossible

/-- A number with leading zeros up to a width. -/
def padded (width n : Nat) : String :=
  let digits := Nat.toDigits 10 n
  String.ofList (List.replicate (width - digits.length) '0' ++ digits)

/-- A year; years of more than four digits and years before the year zero have a sign. -/
def yearText (year : Int) : String :=
  if year < 0 then "-" ++ padded 4 year.natAbs
  else if 9999 < year then "+" ++ padded 4 year.natAbs
  else padded 4 year.natAbs

/-- The nanoseconds behind a point: none, or three, six or nine digits. -/
def fractionText (n : Nat) : String :=
  if n = 0 then ""
  else if n % 1000000 = 0 then "." ++ padded 3 (n / 1000000)
  else if n % 1000 = 0 then "." ++ padded 6 (n / 1000)
  else "." ++ padded 9 n

/-- The text of a moment in UTC. -/
def text (m : Moment) : String :=
  let days := m.seconds.fdiv 86400
  let rest := (m.seconds - days * 86400).toNat
  let (year, month, day) := dateOfDays days
  let leap := 1000000000 ≤ m.nanoseconds
  let second := if leap then rest % 60 + 1 else rest % 60
  let nanoseconds := if leap then m.nanoseconds - 1000000000 else m.nanoseconds
  yearText year ++ "-" ++ padded 2 month ++ "-" ++ padded 2 day ++ "T" ++ padded 2 (rest / 3600) ++ ":" ++
    padded 2 (rest / 60 % 60) ++ ":" ++ padded 2 second ++ fractionText nanoseconds ++ "Z"

end Moment

end KeyedFlow
