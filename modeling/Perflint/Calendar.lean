namespace Perflint

structure Day where
  year : Nat
  month : Nat
  day : Nat
  deriving DecidableEq, Repr, Inhabited

structure Moment where
  day : Day
  hour : Nat
  minute : Nat
  second : Nat
  micro : Nat
  offset : Option Int
  deriving DecidableEq, Repr, Inhabited

inductive CalendarFault where
  | year (count : Nat)
  | month
  | day
  | hour
  | minute
  | second
  | offset (seconds : Int)
  deriving DecidableEq, Repr

namespace Calendar

def secondsPerDay : Nat := 86400

-- The day so many days after the first of January 1970. Years are counted from March, so that a leap day is the last
-- day of its year, and eras are four hundred years long.
def dayOfCount (count : Nat) : Day :=
  let shifted := count + 719468
  let era := shifted / 146097
  let inEra := shifted % 146097
  let yearOfEra := (inEra - inEra / 1460 + inEra / 36524 - inEra / 146096) / 365
  let inYear := inEra - (365 * yearOfEra + yearOfEra / 4 - yearOfEra / 100)
  let fromMarch := (5 * inYear + 2) / 153
  let month := if fromMarch < 10 then fromMarch + 3 else fromMarch - 9
  { year := yearOfEra + era * 400 + (if month ≤ 2 then 1 else 0), month
    day := inYear - (153 * fromMarch + 2) / 5 + 1 }

def isLeap (year : Nat) : Bool :=
  year % 4 == 0 && (year % 100 != 0 || year % 400 == 0)

def daysIn (year month : Nat) : Nat :=
  if month == 2 then (if isLeap year then 29 else 28)
  else if month == 4 || month == 6 || month == 9 || month == 11 then 30
  else 31

def checkDay (day : Day) : Except CalendarFault Unit := do
  if day.year == 0 || 9999 < day.year then throw (.year day.year)
  if day.month == 0 || 12 < day.month then throw .month
  if day.day == 0 || daysIn day.year day.month < day.day then throw .day

def checkMoment (moment : Moment) : Except CalendarFault Unit := do
  if let some offset := moment.offset then
    if secondsPerDay ≤ offset.natAbs then throw (.offset offset)
  checkDay moment.day
  if 23 < moment.hour then throw .hour
  if 59 < moment.minute then throw .minute
  if 59 < moment.second then throw .second

-- A span as whole days and the seconds of a day on top, which are never negative.
def spanText (seconds : Int) : String :=
  let days := Int.fdiv seconds secondsPerDay
  let rest := Int.fmod seconds secondsPerDay
  let parts := (if days == 0 then [] else ["days=" ++ toString days]) ++
    (if rest == 0 then [] else ["seconds=" ++ toString rest])
  "datetime.timedelta(" ++ (if parts.isEmpty then "0" else ", ".intercalate parts) ++ ")"

def offsetText (seconds : Int) : String :=
  if seconds == 0 then "datetime.timezone.utc" else "datetime.timezone(" ++ spanText seconds ++ ")"

def dayNumbers (day : Day) : List Nat :=
  [day.year, day.month, day.day]

def dayText (day : Day) : String :=
  "datetime.date(" ++ ", ".intercalate ((dayNumbers day).map toString) ++ ")"

def momentText (moment : Moment) : String :=
  let tail :=
    if moment.micro != 0 then [moment.second, moment.micro]
    else if moment.second != 0 then [moment.second]
    else []
  let zone := moment.offset.toList.map fun seconds => "tzinfo=" ++ offsetText seconds
  "datetime.datetime(" ++
    ", ".intercalate ((dayNumbers moment.day ++ [moment.hour, moment.minute] ++ tail).map toString ++ zone) ++ ")"

end Calendar

def CalendarFault.message : CalendarFault → String
  | .year count => "year " ++ toString count ++ " is out of range"
  | .month => "month must be in 1..12"
  | .day => "day is out of range for month"
  | .hour => "hour must be in 0..23"
  | .minute => "minute must be in 0..59"
  | .second => "second must be in 0..59"
  | .offset seconds =>
    "offset must be a timedelta strictly between -timedelta(hours=24) and timedelta(hours=24), not " ++
      Calendar.spanText seconds ++ "."

end Perflint
