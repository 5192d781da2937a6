/-
Module: TrafficMeter.Timestamp
Purpose: Moments in time to the nanosecond, leap seconds included: the calendar, the text in
  universal time, and a lenient reader of such texts with a zone.
Main exports: Timestamp, Timestamp.ofMillis, Timestamp.millis, Timestamp.text, Timestamp.read?
-/
import TrafficMeter.Text.Blank
import TrafficMeter.Text.Numeral

namespace TrafficMeter

open Text

/-- Seconds since the Unix epoch, and nanoseconds since that second; these pass one second inside
a leap second. -/
structure Timestamp where
  seconds : Int
  nanos : Nat
deriving DecidableEq, Repr, Inhabited

/-- A day of the Gregorian calendar. -/
structure CalendarDay where
  year : Int
  month : Nat
  day : Nat
deriving DecidableEq, Repr

namespace CalendarDay

/-- Whether a year has 366 days. -/
def isLeapYear (year : Int) : Bool :=
  year % 4 == 0 && (year % 100 != 0 || year % 400 == 0)

/-- The number of days of a month. -/
def monthLength (year : Int) (month : Nat) : Nat :=
  if month = 2 then if isLeapYear year then 29 else 28
  else if month = 4 ∨ month = 6 ∨ month = 9 ∨ month = 11 then 30
  else 31

/-- The years that are told apart. -/
def yearInRange (year : Int) : Bool := -262143 ≤ year && year ≤ 262142

/-- Whether the calendar has this day. -/
def isValid (day : CalendarDay) : Bool :=
  yearInRange day.year && 1 ≤ day.month && day.month ≤ 12 && 1 ≤ day.day &&
    day.day ≤ monthLength day.year day.month

/-- The number of days since the Unix epoch.  Years are counted from March, so that a leap day is
the last of its year, and in eras of four hundred years. -/
def toDays (day : CalendarDay) : Int :=
  let year := if day.month ≤ 2 then day.year - 1 else day.year
  let era := year / 400
  let yearOfEra := year % 400
  let monthFromMarch := (day.month + 9) % 12
  let dayOfYear := (153 * monthFromMarch + 2) / 5 + day.day - 1
  let dayOfEra := yearOfEra * 365 + yearOfEra / 4 - yearOfEra / 100 + dayOfYear
  era * 146097 + dayOfEra - 719468

/-- The day that is so many days after the Unix epoch. -/
def ofDays (days : Int) : CalendarDay :=
  let shifted := days + 719468
  let era := shifted / 146097
  let dayOfEra := (shifted % 146097).toNat
  let yearOfEra := (dayOfEra - dayOfEra / 1460 + dayOfEra / 36524 - dayOfEra / 146096) / 365
  let dayOfYear := dayOfEra - (365 * yearOfEra + yearOfEra / 4 - yearOfEra / 100)
  let monthFromMarch := (5 * dayOfYear + 2) / 153
  let day := dayOfYear - (153 * monthFromMarch + 2) / 5 + 1
  let month := if monthFromMarch < 10 then monthFromMarch + 3 else monthFromMarch - 9
  let year := era * 400 + yearOfEra
  { year := if month ≤ 2 then year + 1 else year, month, day }

example : (⟨1970, 1, 1⟩ : CalendarDay).toDays = 0 := by decide
example : (⟨2000, 2, 29⟩ : CalendarDay).toDays = 11016 := by decide
example : ofDays 11016 = ⟨2000, 2, 29⟩ := by decide
example : ofDays (-1) = ⟨1969, 12, 31⟩ := by decide

end CalendarDay

namespace Timestamp

/-- The moment so many milliseconds after the Unix epoch. -/
def ofMillis (millis : Int) : Timestamp :=
  { seconds := millis / 1000, nanos := (millis % 1000).toNat * 1000000 }

/-- The milliseconds since the Unix epoch. -/
def millis (time : Timestamp) : Int :=
  time.seconds * 1000 + time.nanos / 1000000

/-! ### Writing -/

/-- The text of a year: four digits, with a sign outside the years zero to 9999. -/
def yearText (year : Int) : List Char :=
  if year < 0 then '-' :: decimalPadded 4 year.natAbs
  else if year < 10000 then decimalPadded 4 year.natAbs
  else '+' :: decimalPadded 4 year.natAbs

/-- The text of a fraction of a second: none, or the fewest of three, six or nine digits that are
exact. -/
def fractionText (nanos : Nat) : List Char :=
  if nanos = 0 then []
  else if nanos % 1000000 = 0 then '.' :: decimalPadded 3 (nanos / 1000000)
  else if nanos % 1000 = 0 then '.' :: decimalPadded 6 (nanos / 1000)
  else '.' :: decimalPadded 9 nanos

/-- The text of a moment in universal time. -/
def text (time : Timestamp) : String :=
  let day := CalendarDay.ofDays (time.seconds / 86400)
  let secondOfDay := (time.seconds % 86400).toNat
  let leap := time.nanos / 1000000000
  String.ofList (yearText day.year ++ '-' :: decimalPadded 2 day.month ++
    '-' :: decimalPadded 2 day.day ++ 'T' :: decimalPadded 2 (secondOfDay / 3600) ++
    ':' :: decimalPadded 2 (secondOfDay / 60 % 60) ++
    ':' :: decimalPadded 2 (secondOfDay % 60 + leap) ++
    fractionText (time.nanos % 1000000000) ++ ['Z'])

/-! ### Reading -/

/-- Read a number of at least one digit, and at most `width` if that is given.  It stays below a
thousand millions. -/
def readNumber? (width : Option Nat) (input : List Char) : Option (Nat × List Char) :=
  let run := input.takeWhile Char.isDigit
  let digits := match width with
    | some width => run.take width
    | none => run
  if digits.isEmpty then none
  else (digitsBelow? 10 1000000000 digits).map (·, input.drop digits.length)

/-- Read a two-digit field, of which one digit is enough, behind blanks. -/
def readField? (input : List Char) : Option (Nat × List Char) :=
  readNumber? (some 2) (trimStart input)

/-- Read a mark behind blanks. -/
def readMark? (mark : Char) (input : List Char) : Option (List Char) :=
  match trimStart input with
  | c :: rest => if c = mark then some rest else none
  | [] => none

/-- Read a year behind blanks: up to four digits, or any number of them behind a sign. -/
def readYear? (input : List Char) : Option (Int × List Char) :=
  match trimStart input with
  | '-' :: rest => (readNumber? none rest).map fun (n, rest) => (-(n : Int), rest)
  | '+' :: rest => (readNumber? none rest).map fun (n, rest) => ((n : Int), rest)
  | rest => (readNumber? (some 4) rest).map fun (n, rest) => ((n : Int), rest)

def readDay? (input : List Char) : Option (CalendarDay × List Char) := do
  let (year, rest) ← readYear? input
  let rest ← readMark? '-' rest
  let (month, rest) ← readField? rest
  let rest ← readMark? '-' rest
  let (day, rest) ← readField? rest
  return (⟨year, month, day⟩, rest)

/-- Read the fraction of a second, in nanoseconds; digits past the ninth are dropped. -/
def readFraction? (input : List Char) : Option (Nat × List Char) :=
  match input with
  | '.' :: rest => do
      let (value, behind) ← readNumber? (some 9) rest
      let digits := rest.length - behind.length
      return (value * Nat.pow 10 (9 - digits), behind.dropWhile Char.isDigit)
  | rest => some (0, rest)

/-- Read a time of day: the second of the day and the nanoseconds since it.  The sixtieth second
of a minute is a leap second. -/
def readTime? (input : List Char) : Option ((Nat × Nat) × List Char) := do
  let (hour, rest) ← readField? input
  let rest ← readMark? ':' rest
  let (minute, rest) ← readField? rest
  let rest ← readMark? ':' rest
  let (second, rest) ← readField? rest
  let (nanos, rest) ← readFraction? rest
  guard (hour < 24 ∧ minute < 60 ∧ second ≤ 60)
  let leap := if second = 60 then 1000000000 else 0
  return ((hour * 3600 + minute * 60 + min second 59, nanos + leap), rest)

/-- Read exactly two digits. -/
def readPair? : List Char → Option (Nat × List Char)
  | a :: b :: rest =>
      if a.isDigit && b.isDigit then (digitsValue? 10 [a, b]).map (·, rest) else none
  | _ => none

/-- Read a zone, in seconds east of Greenwich: a letter or name for universal time, or a sign,
hours and minutes. -/
def readZone? (input : List Char) : Option (Int × List Char) :=
  if asciiLower (input.take 3) = ['u', 't', 'c'] then some (0, input.drop 3)
  else
    match input with
    | 'Z' :: rest => some (0, rest)
    | 'z' :: rest => some (0, rest)
    | sign :: rest =>
        if sign = '+' ∨ sign = '-' ∨ sign = '−' then do
          let (hours, rest) ← readPair? rest
          let (minutes, rest) ← readPair? (rest.dropWhile fun c => c == ':' || isBlank c)
          guard (minutes < 60)
          let east : Int := hours * 3600 + minutes * 60
          guard (east < 86400)
          return (if sign = '+' then east else -east, rest)
        else none
    | [] => none

/-- What stands between the day and the time. -/
def isSeparator (c : Char) : Bool := c == 'T' || c == 't' || c == ' '

/-- Read a moment: a day, a time of day and a zone. -/
def read? (text : String) : Option Timestamp := do
  let (day, rest) ← readDay? text.toList
  guard (rest.head?.any isSeparator)
  let ((second, nanos), rest) ← readTime? (rest.drop 1)
  let (east, rest) ← readZone? (trimStart rest)
  guard (trimStart rest).isEmpty
  guard day.isValid
  let seconds := day.toDays * 86400 + second - east
  guard (CalendarDay.yearInRange (CalendarDay.ofDays (seconds / 86400)).year)
  return { seconds, nanos }

end Timestamp

end TrafficMeter
