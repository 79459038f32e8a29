-- Dates in header fields. Times are seconds since the start of 1970; a date is written in
-- one form and read in three.
import IsoServer.Bytes

namespace IsoServer

/-- A moment of the calendar, in Greenwich time. -/
structure Date where
  year : Nat
  month : Nat
  day : Nat
  hour : Nat
  minute : Nat
  second : Nat
  deriving DecidableEq, Repr

namespace Date

/-! ## Calendar -/

def isLeap (year : Nat) : Bool := year % 4 == 0 && (year % 100 != 0 || year % 400 == 0)

/-- The days before a month of a common year. -/
def daysBefore (month : Nat) : Nat :=
  [0, 31, 59, 90, 120, 151, 181, 212, 243, 273, 304, 334].getD (month - 1) 0

/-- The days from the start of 1970 to the start of a year. -/
def daysToYear (year : Nat) : Nat :=
  let last := year - 1
  (year - 1970) * 365 + ((last - 1968) / 4 - (last - 1900) / 100 + (last - 1600) / 400)

/-- The days from the start of 1970 to a date. -/
def days (d : Date) : Nat :=
  daysToYear d.year + daysBefore d.month + (if isLeap d.year && d.month > 2 then 1 else 0) +
    (d.day - 1)

/-- The seconds from the start of 1970 to a date. -/
def toSeconds (d : Date) : Nat := d.days * 86400 + d.hour * 3600 + d.minute * 60 + d.second

/-- The date of a number of seconds. Days are counted from the first of March of the year zero,
so that a leap day ends its year. -/
def ofSeconds (seconds : Nat) : Date :=
  let z := seconds / 86400 + 719468
  let era := z / 146097
  let dayOfEra := z % 146097
  let yearOfEra := (dayOfEra - dayOfEra / 1460 + dayOfEra / 36524 - dayOfEra / 146096) / 365
  let dayOfYear := dayOfEra - (365 * yearOfEra + yearOfEra / 4 - yearOfEra / 100)
  let mp := (5 * dayOfYear + 2) / 153
  let month := if mp < 10 then mp + 3 else mp - 9
  { year := yearOfEra + era * 400 + (if month ≤ 2 then 1 else 0)
    month
    day := dayOfYear - (153 * mp + 2) / 5 + 1
    hour := seconds / 3600 % 24
    minute := seconds / 60 % 60
    second := seconds % 60 }

/-- The day of the week; Sunday is zero. -/
def weekday (d : Date) : Nat := (d.days + 4) % 7

/-! ## Names -/

def monthNames : List String :=
  ["Jan", "Feb", "Mar", "Apr", "May", "Jun", "Jul", "Aug", "Sep", "Oct", "Nov", "Dec"]

def dayNames : List String :=
  ["Sunday", "Monday", "Tuesday", "Wednesday", "Thursday", "Friday", "Saturday"]

/-- The first three letters. -/
def short (s : String) : String := String.ofList (s.toList.take 3)

/-- The number of a name in a list of names, from zero. -/
def indexOf? (names : List String) (s : Bytes) : Option Nat :=
  (names.map Bytes.ofString).idxOf? s

/-! ## Writing -/

/-- Decimal digits, filled up with zeros to the given width. -/
def padded (width n : Nat) : Bytes :=
  let ds := Bytes.decimal n
  List.replicate (width - ds.length) 0x30 ++ ds

/-- A date as a header field has it, such as `Sun, 06 Nov 1994 08:49:37 GMT`. -/
def text (d : Date) : Bytes :=
  Bytes.ofString (short (dayNames.getD d.weekday "")) ++ Bytes.ofString ", " ++ padded 2 d.day ++
    [0x20] ++ Bytes.ofString (monthNames.getD (d.month - 1) "") ++ [0x20] ++ padded 4 d.year ++
    [0x20] ++ padded 2 d.hour ++ [0x3A] ++ padded 2 d.minute ++ [0x3A] ++ padded 2 d.second ++
    Bytes.ofString " GMT"

/-! ## Reading -/

/-- The bytes from `start` up to but not including `stop`. -/
def slice (s : Bytes) (start stop : Nat) : Bytes := (s.drop start).take (stop - start)

/-- Whether the byte at an index is the given one. -/
def has (s : Bytes) (index : Nat) (b : UInt8) : Bool := s[index]? == some b

/-- A clock time that starts at an index, with colons between its parts. -/
def clock? (s : Bytes) (start : Nat) : Option (Nat × Nat × Nat) := do
  if !(has s (start + 2) 0x3A && has s (start + 5) 0x3A) then none
  let hour ← Bytes.decimal? (slice s start (start + 2))
  let minute ← Bytes.decimal? (slice s (start + 3) (start + 5))
  let second ← Bytes.decimal? (slice s (start + 6) (start + 8))
  some (hour, minute, second)

/-- A date with its day of the week, as in `Sun, 06 Nov 1994 08:49:37 GMT`. -/
def fixed? (s : Bytes) : Option (Date × Nat) := do
  if s.length != 29 || slice s 25 29 != Bytes.ofString " GMT" || !has s 16 0x20 then none
  if !(slice s 3 5 == Bytes.ofString ", " && has s 7 0x20 && has s 11 0x20) then none
  let weekday ← indexOf? (dayNames.map short) (slice s 0 3)
  let month ← indexOf? monthNames (slice s 8 11)
  let day ← Bytes.decimal? (slice s 5 7)
  let year ← Bytes.decimal? (slice s 12 16)
  let (hour, minute, second) ← clock? s 17
  some ({ year, month := month + 1, day, hour, minute, second }, weekday)

/-- A date as in `Sunday, 06-Nov-94 08:49:37 GMT`; years below 70 are of this century. -/
def twoDigitYear? (s : Bytes) : Option (Date × Nat) := do
  let name := s.takeWhile (· != 0x2C)
  let weekday ← indexOf? dayNames name
  let rest ← Bytes.dropStart? (Bytes.ofString ", ") (s.drop name.length)
  if rest.length != 22 || slice rest 18 22 != Bytes.ofString " GMT" then none
  if !(has rest 2 0x2D && has rest 6 0x2D) then none
  let month ← indexOf? monthNames (slice rest 3 6)
  let day ← Bytes.decimal? (slice rest 0 2)
  let year ← Bytes.decimal? (slice rest 7 9)
  let (hour, minute, second) ← clock? rest 10
  some ({ year := if year < 70 then 2000 + year else 1900 + year,
          month := month + 1, day, hour, minute, second }, weekday)

/-- A date as in `Sun Nov  6 08:49:37 1994`. -/
def calendarStyle? (s : Bytes) : Option (Date × Nat) := do
  if s.length != 24 || !has s 10 0x20 || !has s 19 0x20 || !has s 3 0x20 || !has s 7 0x20 then none
  let weekday ← indexOf? (dayNames.map short) (slice s 0 3)
  let month ← indexOf? monthNames (slice s 4 7)
  let day ← Bytes.decimal? (if has s 8 0x20 then slice s 9 10 else slice s 8 10)
  let year ← Bytes.decimal? (slice s 20 24)
  let (hour, minute, second) ← clock? s 11
  some ({ year, month := month + 1, day, hour, minute, second }, weekday)

/-- Whether the date exists, from 1970 to 9999, and falls on that day of the week. -/
def isReal (d : Date) (weekday : Nat) : Bool :=
  1970 ≤ d.year && d.year ≤ 9999 && 1 ≤ d.day && d.hour < 24 && d.minute < 60 && d.second < 60 &&
    ofSeconds d.toSeconds == d && d.weekday == weekday

/-- Reads a date in any of the three forms, as seconds since the start of 1970. -/
def parse? (s : Bytes) : Option Nat :=
  let s := Bytes.trimBy Bytes.isBlank s
  match (fixed? s).or ((twoDigitYear? s).or (calendarStyle? s)) with
  | some (d, weekday) => if d.isReal weekday then some d.toSeconds else none
  | none => none

/-- The text of a time, if it lies between 1970 and 9999. -/
def textOf? (seconds : Int) : Option Bytes :=
  if 0 ≤ seconds && seconds < 253402300800 then some (ofSeconds seconds.toNat).text else none

end Date

end IsoServer
