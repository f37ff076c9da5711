/-
  CrudQueries.Data.Calendar — days and moments.

  A day is a year from 1 to 9999 with a month and a day in range; a moment adds a time of day
  to the microsecond and, if it is known, the distance from universal time in minutes. Parts
  that do not fit are refused: those of a day are looked at from the year on, those of a time
  from the hour on.
-/

namespace CrudQueries.Data

-- An empty sum is the numeral, whatever else is imported.
attribute [local instance (high)] Zero.ofOfNat0

/-- A day of the calendar. -/
structure Day where
  year : Nat
  month : Nat
  day : Nat
  deriving DecidableEq, Repr

/-- A time of a day. -/
structure Clock where
  hour : Nat
  minute : Nat
  second : Nat
  microsecond : Nat
  deriving DecidableEq, Repr

/-- A day with a time, and the minutes by which that time is ahead of universal time. -/
structure Moment where
  day : Day
  clock : Clock
  ahead : Option Int
  deriving DecidableEq, Repr

/-- Why parts make no day or moment. -/
inductive CalendarError where
  | year (n : Nat)
  | month
  | day
  | hour
  | minute
  | second
  | ahead (minutes : Int)
  deriving DecidableEq, Repr

def isLeap (year : Nat) : Bool := year % 4 == 0 && (year % 100 != 0 || year % 400 == 0)

def daysInMonth (year month : Nat) : Nat :=
  if month == 2 then if isLeap year then 29 else 28
  else if month == 4 || month == 6 || month == 9 || month == 11 then 30
  else 31

/-- The day of the given parts. -/
def Day.of (year month day : Nat) : Except CalendarError Day :=
  if year < 1 || 9999 < year then .error (.year year)
  else if month < 1 || 12 < month then .error .month
  else if day < 1 || daysInMonth year month < day then .error .day
  else .ok ⟨year, month, day⟩

/-- The time of the given parts. -/
def Clock.of (hour minute second microsecond : Nat) : Except CalendarError Clock :=
  if 23 < hour then .error .hour
  else if 59 < minute then .error .minute
  else if 59 < second then .error .second
  else .ok ⟨hour, minute, second, microsecond⟩

/-- A distance from universal time, which is less than a day. -/
def checkAhead (minutes : Int) : Except CalendarError Int :=
  if minutes.natAbs < 1440 then .ok minutes else .error (.ahead minutes)

/-- `n` in decimal with zeros before it up to `width` digits. -/
def zeroPadded (width n : Nat) : String :=
  let digits := toString n
  "".pushn '0' (width - digits.length) ++ digits

/-- The parts of a span of minutes in days and seconds, as a display names them. -/
def shownSpan (minutes : Int) : String :=
  let days := minutes.fdiv 1440
  let seconds := minutes.fmod 1440 * 60
  let parts := (if days == 0 then [] else ["days=" ++ toString days])
    ++ (if seconds == 0 then [] else ["seconds=" ++ toString seconds])
  "datetime.timedelta(" ++ (if parts.isEmpty then "0" else ", ".intercalate parts) ++ ")"

def CalendarError.message : CalendarError → String
  | .year n => "year " ++ toString n ++ " is out of range"
  | .month => "month must be in 1..12"
  | .day => "day is out of range for month"
  | .hour => "hour must be in 0..23"
  | .minute => "minute must be in 0..59"
  | .second => "second must be in 0..59"
  | .ahead minutes =>
    "offset must be a timedelta strictly between -timedelta(hours=24) and timedelta(hours=24), not "
      ++ shownSpan minutes ++ "."

/-- Year, month and day with hyphens. -/
def Day.iso (d : Day) : String :=
  zeroPadded 4 d.year ++ "-" ++ zeroPadded 2 d.month ++ "-" ++ zeroPadded 2 d.day

/-- Day and time with a `T` between them, microseconds and distance where they are given. -/
def Moment.iso (m : Moment) : String :=
  let t := m.clock
  let clock := zeroPadded 2 t.hour ++ ":" ++ zeroPadded 2 t.minute ++ ":" ++ zeroPadded 2 t.second
  let fraction := if t.microsecond == 0 then "" else "." ++ zeroPadded 6 t.microsecond
  let ahead := match m.ahead with
    | none => ""
    | some n =>
      (if n < 0 then "-" else "+") ++ zeroPadded 2 (n.natAbs / 60) ++ ":" ++ zeroPadded 2 (n.natAbs % 60)
  m.day.iso ++ "T" ++ clock ++ fraction ++ ahead

def Day.shown (d : Day) : String :=
  "datetime.date(" ++ toString d.year ++ ", " ++ toString d.month ++ ", " ++ toString d.day ++ ")"

def Moment.shown (m : Moment) : String :=
  let t := m.clock
  let tail := if t.microsecond == 0 then (if t.second == 0 then [] else [t.second])
    else [t.second, t.microsecond]
  let numbers := ([m.day.year, m.day.month, m.day.day, t.hour, t.minute] ++ tail).map toString
  let ahead := match m.ahead with
    | none => []
    | some 0 => ["tzinfo=datetime.timezone.utc"]
    | some n => ["tzinfo=datetime.timezone(" ++ shownSpan n ++ ")"]
  "datetime.datetime(" ++ ", ".intercalate (numbers ++ ahead) ++ ")"

/-- The days before the first of January of `year`. -/
def daysBeforeYear (year : Nat) : Nat :=
  let y := year - 1
  y * 365 + y / 4 - y / 100 + y / 400

/-- The number of a day, the first day of year 1 being 1. -/
def Day.ordinal (d : Day) : Nat :=
  daysBeforeYear d.year + ((List.range (d.month - 1)).map fun m => daysInMonth d.year (m + 1)).sum + d.day

/-- The microseconds from the beginning of year 1, in universal time if the distance is known. -/
def Moment.instant (m : Moment) : Int :=
  let t := m.clock
  let minutes : Int := (m.day.ordinal * 24 + t.hour) * 60 + t.minute - m.ahead.getD 0
  (minutes * 60 + t.second) * 1000000 + t.microsecond

/-- Are two moments the same? One with a known distance differs from one without. -/
def Moment.same (a b : Moment) : Bool :=
  a.ahead.isSome == b.ahead.isSome && a.instant == b.instant

end CrudQueries.Data
