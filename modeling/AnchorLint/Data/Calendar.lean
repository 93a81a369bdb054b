import AnchorLint.Text.Basic

/-!
# Dates and times

Front matter may hold dates, times of day and points in time.  A point in time
may carry its offset from universal time in minutes.
-/

namespace AnchorLint

/-- A day of the proleptic Gregorian calendar. -/
structure Date where
  year : Nat
  month : Nat
  day : Nat
deriving DecidableEq

structure TimeOfDay where
  hour : Nat
  minute : Nat
  second : Nat
  microsecond : Nat
deriving DecidableEq

/-- A date and a time of day, with the offset from universal time in minutes
if it is known. -/
structure Moment where
  date : Date
  time : TimeOfDay
  offset : Option Int
deriving DecidableEq

/-- Why numbers do not make up a date or a time. -/
inductive CalendarError where
  | year (value : Nat)
  | month
  | day
  | hour
  | minute
  | second
  | offset (minutes : Int)
deriving DecidableEq

/-- A span of time as it is quoted in messages: whole days, rounded down, and
the seconds of the rest, unless they are zero. -/
def quoteMinutes (minutes : Int) : Text :=
  let days := minutes.fdiv 1440
  let seconds := minutes.fmod 1440 * 60
  let part (name : String) (amount : Int) : List Text :=
    if amount = 0 then [] else [name.toList ++ '=' :: Text.ofInt amount]
  let parts := part "days" days ++ part "seconds" seconds
  "datetime.timedelta(".toList
    ++ Text.join ", ".toList (if parts.isEmpty then [['0']] else parts)
    ++ [')']

/-- The complaint about a date or time that does not exist. -/
def CalendarError.message : CalendarError → Text
  | year value =>
    "year ".toList ++ Text.ofNat value ++ " is out of range".toList
  | month => "month must be in 1..12".toList
  | day => "day is out of range for month".toList
  | hour => "hour must be in 0..23".toList
  | minute => "minute must be in 0..59".toList
  | second => "second must be in 0..59".toList
  | offset minutes =>
    "offset must be a timedelta strictly between ".toList
      ++ "-timedelta(hours=24) and timedelta(hours=24), not ".toList
      ++ quoteMinutes minutes ++ ['.']

namespace Date

/-- Whether a year has a 29th of February. -/
def isLeap (year : Nat) : Bool :=
  year % 4 == 0 && (year % 100 != 0 || year % 400 == 0)

def daysIn (year month : Nat) : Nat :=
  if month = 2 then if isLeap year then 29 else 28
  else if month = 4 ∨ month = 6 ∨ month = 9 ∨ month = 11 then 30
  else 31

def make (year month day : Nat) : Except CalendarError Date :=
  if year < 1 ∨ 9999 < year then .error (.year year)
  else if month < 1 ∨ 12 < month then .error .month
  else if day < 1 ∨ daysIn year month < day then .error .day
  else .ok ⟨year, month, day⟩

/-- The number of days before a date, counted from the start of the era. -/
def dayNumber (date : Date) : Nat :=
  let before := date.year - 1
  before * 365 + before / 4 - before / 100 + before / 400
    + ((List.range (date.month - 1)).map fun month =>
        daysIn date.year (month + 1)).foldl Nat.add 0
    + date.day

/-- The date as year, month and day with hyphens between them. -/
def write (date : Date) : Text :=
  Text.padZeros 4 (Text.ofNat date.year)
    ++ '-' :: Text.padZeros 2 (Text.ofNat date.month)
    ++ '-' :: Text.padZeros 2 (Text.ofNat date.day)

end Date

namespace TimeOfDay

def make (hour minute second microsecond : Nat) :
    Except CalendarError TimeOfDay :=
  if 23 < hour then .error .hour
  else if 59 < minute then .error .minute
  else if 59 < second then .error .second
  else .ok ⟨hour, minute, second, microsecond⟩

/-- The microseconds since midnight. -/
def microseconds (time : TimeOfDay) : Nat :=
  ((time.hour * 60 + time.minute) * 60 + time.second) * 1000000
    + time.microsecond

/-- The time as hours, minutes and seconds with colons between them, and with
the microseconds unless there are none. -/
def write (time : TimeOfDay) : Text :=
  let two (number : Nat) := Text.padZeros 2 (Text.ofNat number)
  two time.hour ++ ':' :: two time.minute ++ ':' :: two time.second
    ++ (if time.microsecond = 0 then []
      else '.' :: Text.padZeros 6 (Text.ofNat time.microsecond))

end TimeOfDay

namespace Moment

def writeOffset (offset : Int) : Text :=
  let two (number : Nat) := Text.padZeros 2 (Text.ofNat number)
  (if offset < 0 then '-' else '+')
    :: two (offset.natAbs / 60) ++ ':' :: two (offset.natAbs % 60)

/-- The date, a separator, the time, and the offset if it is known. -/
def write (separator : Char) (moment : Moment) : Text :=
  moment.date.write ++ separator :: moment.time.write
    ++ (moment.offset.map writeOffset).getD []

/-- The microseconds in universal time since the start of the era. -/
def instant (moment : Moment) : Int :=
  (moment.date.dayNumber : Int) * 86400000000 + moment.time.microseconds
    - moment.offset.getD 0 * 60000000

/-- Whether two moments are the same; one with a known offset is never the
same as one without. -/
def same (first second : Moment) : Bool :=
  first.offset.isSome == second.offset.isSome
    && first.instant == second.instant

end Moment

end AnchorLint
