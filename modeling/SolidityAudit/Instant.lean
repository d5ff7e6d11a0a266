import SolidityAudit.Number.Binary64

/-!
# Instants

Points in time as a calendar date, a time of day and an offset from universal
time, written in the extended form of the international date format. The years
are those of four digits.

## Main definitions

* `Instant`: A date, a time of day and an offset.
* `Instant.text`: The instant in the international format.
* `Instant.Fault`: Why numbers are no instant.
* `Instant.ofParts`: The instant of given parts, if there is one.
* `Instant.ofSeconds`: The instant of a number of seconds since 1970.
* `Instant.ofTimestamp`: The same for seconds in binary64.
-/

namespace SolidityAudit

/-- A point in time. -/
structure Instant where
  year : Nat
  month : Nat
  day : Nat
  hour : Nat
  minute : Nat
  second : Nat
  microsecond : Nat
  /-- Minutes east of universal time, `none` where no zone is known. -/
  offset : Option Int
deriving DecidableEq, Repr

namespace Instant

/-- A number in at least a count of digits. -/
def padded (width n : Nat) : String :=
  let ds := Nat.toDigits 10 n
  String.ofList (List.replicate (width - ds.length) '0' ++ ds)

/-- Hours, minutes and seconds. -/
def timeText (t : Instant) : String :=
  padded 2 t.hour ++ ":" ++ padded 2 t.minute ++ ":" ++ padded 2 t.second

/-- An offset as a sign, hours and minutes. -/
def offsetText : Option Int → String
  | none => ""
  | some m =>
    (if m < 0 then "-" else "+") ++ padded 2 (m.natAbs / 60) ++ ":" ++ padded 2 (m.natAbs % 60)

/-- The instant in the international format. A fraction is written only where
    there is one. -/
def text (t : Instant) : String :=
  padded 4 t.year ++ "-" ++ padded 2 t.month ++ "-" ++ padded 2 t.day ++ "T" ++ t.timeText ++
    (if t.microsecond = 0 then "" else "." ++ padded 6 t.microsecond) ++ offsetText t.offset

/-- Why numbers are no instant. -/
inductive Fault where
  /-- The offset is a day or more, in minutes. -/
  | offset (minutes : Int)
  | year (year : Int)
  | month
  | day
  | hour
  | minute
  | second
  | microsecond
  /-- The timestamp is not a number. -/
  | notNumber
  /-- The timestamp does not fit a signed word of seconds. -/
  | beyondSeconds
  /-- The year of the timestamp does not fit a signed half word. -/
  | beyondYears
deriving DecidableEq, Repr

/-- A span of minutes as days and seconds. -/
def spanText (minutes : Int) : String :=
  let seconds := Int.fmod minutes 1440 * 60
  "datetime.timedelta(days=" ++ toString (Int.fdiv minutes 1440) ++
    (if seconds = 0 then "" else ", seconds=" ++ toString seconds) ++ ")"

/-- The wording of a fault. -/
def Fault.message : Fault → String
  | .offset minutes => "offset must be a timedelta strictly between -timedelta(hours=24) and " ++
      "timedelta(hours=24), not " ++ spanText minutes ++ "."
  | .year y => "year " ++ toString y ++ " is out of range"
  | .month => "month must be in 1..12"
  | .day => "day is out of range for month"
  | .hour => "hour must be in 0..23"
  | .minute => "minute must be in 0..59"
  | .second => "second must be in 0..59"
  | .microsecond => "microsecond must be in 0..999999"
  | .notNumber => "Invalid value NaN (not a number)"
  | .beyondSeconds => "timestamp out of range for platform time_t"
  | .beyondYears => "[Errno 75] Value too large for defined data type"

/-- Whether a year has a leap day. -/
def isLeap (year : Int) : Bool :=
  year % 4 == 0 && (year % 100 != 0 || year % 400 == 0)

/-- The number of days of a month. -/
def daysIn (year month : Int) : Int :=
  if month = 2 then (if isLeap year then 29 else 28)
  else if month = 4 || month = 6 || month = 9 || month = 11 then 30
  else 31

/-- The first fault of the parts of an instant, the offset first and then from
    the year down. -/
def fault? (year month day hour minute second microsecond : Int) (offset : Option Int) :
    Option Fault :=
  let outside (low n high : Int) : Bool := n < low || high < n
  match offset.filter fun m => 1440 ≤ m.natAbs with
  | some m => some (.offset m)
  | none =>
    if outside 1 year 9999 then some (.year year)
    else if outside 1 month 12 then some .month
    else if outside 1 day (daysIn year month) then some .day
    else if outside 0 hour 23 then some .hour
    else if outside 0 minute 59 then some .minute
    else if outside 0 second 59 then some .second
    else if outside 0 microsecond 999999 then some .microsecond
    else none

/-- The instant of given parts, if the calendar has it. -/
def ofParts (year month day hour minute second microsecond : Int) (offset : Option Int) :
    Except Fault Instant :=
  match fault? year month day hour minute second microsecond offset with
  | some f => .error f
  | none =>
    .ok ⟨year.toNat, month.toNat, day.toNat, hour.toNat, minute.toNat, second.toNat,
      microsecond.toNat, offset⟩

/-- The year, month and day of a number of days since 1970-01-01, by the
    Gregorian calendar counted in eras of 400 years that start in March. -/
def ofDays (days : Int) : Int × Nat × Nat :=
  let z := days + 719468
  let era := Int.fdiv z 146097
  let dayOfEra := (z - era * 146097).toNat
  let yearOfEra := (dayOfEra - dayOfEra / 1460 + dayOfEra / 36524 - dayOfEra / 146096) / 365
  let dayOfYear := dayOfEra - (365 * yearOfEra + yearOfEra / 4 - yearOfEra / 100)
  let shifted := (5 * dayOfYear + 2) / 153
  let day := dayOfYear - (153 * shifted + 2) / 5 + 1
  let month := if shifted < 10 then shifted + 3 else shifted - 9
  (yearOfEra + era * 400 + (if month ≤ 2 then 1 else 0), month, day)

/-- The instant of a number of seconds and microseconds since 1970, in universal
    time. -/
def ofSeconds (seconds : Int) (microsecond : Nat) : Instant :=
  let date := ofDays (Int.fdiv seconds 86400)
  let rest := (Int.fmod seconds 86400).toNat
  { year := date.1.toNat, month := date.2.1, day := date.2.2
    hour := rest / 3600, minute := rest / 60 % 60, second := rest % 60
    microsecond := microsecond, offset := some 0 }

/-- The instant of a number of seconds since 1970, in universal time. The
    fraction is rounded to microseconds, a tie to the even one. -/
def ofTimestamp (x : Binary64) : Except Fault Instant :=
  match x, x.truncate? with
  | .nan, _ => .error .notNumber
  | _, none => .error .beyondSeconds
  | _, some whole =>
    let fraction := x - Binary64.ofInt whole
    let micros := whole * 1000000 + ((fraction * Binary64.ofNat 1000000).nearest?.getD 0)
    let seconds := Int.fdiv micros 1000000
    let year := (ofDays (Int.fdiv seconds 86400)).1
    if seconds < -Int.pow 2 63 || Int.pow 2 63 ≤ seconds then .error .beyondSeconds
    else if year - 1900 < -Int.pow 2 31 || Int.pow 2 31 ≤ year - 1900 then .error .beyondYears
    else if year < 1 || 9999 < year then .error (.year year)
    else .ok (ofSeconds seconds (Int.fmod micros 1000000).toNat)

end Instant

end SolidityAudit
