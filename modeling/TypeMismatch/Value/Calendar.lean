import TypeMismatch.Text.Digit

/-!
# Dates and moments

A date is a day of the calendar in which every fourth year is a leap year, except the full centuries
that four does not divide. A moment is a time of a date, to the microsecond; it may have an offset,
the number of seconds that clocks show there ahead of universal time. Moments with an offset are the
same if they are the same in universal time.

Source: the dates and moments that `safe_load` makes.
-/

namespace TypeMismatch

/-- A date of the calendar. -/
structure Date where
  year : Nat
  month : Nat
  day : Nat
deriving DecidableEq, Repr

/-- A moment of a date. -/
structure Moment where
  date : Date
  hour : Nat
  minute : Nat
  second : Nat
  microsecond : Nat
  offset : Option Int
deriving DecidableEq, Repr

namespace Calendar

/-- How many seconds a day has. -/
def daySeconds : Nat := 86400

/-- A natural number in decimal, padded with zeros to a width. -/
def padded (width n : Nat) : String :=
  let ds := Text.numeral n
  String.ofList (List.replicate (width - ds.length) '0' ++ ds)

/-- An integer in decimal. -/
def plain (n : Int) : String := String.ofList (Text.intNumeral n)

/-- A span of time in writing: its whole days, which may be negative, and the seconds beyond. -/
def writtenSpan (seconds : Int) : String :=
  let days := seconds.fdiv daySeconds
  let rest := seconds.fmod daySeconds
  let parts := (if days = 0 then [] else ["days=" ++ plain days])
    ++ (if rest = 0 then [] else ["seconds=" ++ plain rest])
  "datetime.timedelta("
    ++ (if parts.isEmpty then "0" else String.intercalate ", " parts) ++ ")"

/-- Why numbers are no date or no moment. -/
inductive Fault where
  | year (n : Nat)
  | month
  | day
  | hour
  | minute
  | second
  /-- The offset is a day or more. -/
  | offset (seconds : Int)
deriving DecidableEq, Repr

/-- The fault in words. -/
def Fault.message : Fault → String
  | year n => "year " ++ plain n ++ " is out of range"
  | month => "month must be in 1..12"
  | day => "day is out of range for month"
  | hour => "hour must be in 0..23"
  | minute => "minute must be in 0..59"
  | second => "second must be in 0..59"
  | offset seconds =>
    "offset must be a timedelta strictly between -timedelta(hours=24) and timedelta(hours=24), not "
      ++ writtenSpan seconds ++ "."

/-- Whether a year is a leap year. -/
def isLeap (year : Nat) : Bool := year % 4 == 0 && (year % 100 != 0 || year % 400 == 0)

/-- How many days the months of a year have. -/
def monthDays (year : Nat) : List Nat :=
  [31, if isLeap year then 29 else 28, 31, 30, 31, 30, 31, 31, 30, 31, 30, 31]

end Calendar

namespace Date

/-- The date that numbers stand for. -/
def ofNumbers (year month day : Nat) : Except Calendar.Fault Date :=
  if year = 0 then .error (.year year)
  else
    match (Calendar.monthDays year)[month - 1]? with
    | none => .error .month
    | some days =>
      if month = 0 then .error .month
      else if day = 0 || days < day then .error .day
      else .ok ⟨year, month, day⟩

/-- The number of days from the first day of the first year to a date. -/
def ordinal (d : Date) : Nat :=
  let years := d.year - 1
  365 * years + years / 4 - years / 100 + years / 400
    + ((Calendar.monthDays d.year).take (d.month - 1)).foldl (· + ·) 0 + (d.day - 1)

/-- The date as it is shown. -/
def text (d : Date) : String :=
  Calendar.padded 4 d.year ++ "-" ++ Calendar.padded 2 d.month ++ "-" ++ Calendar.padded 2 d.day

/-- The numbers of a date in writing. -/
def numbers (d : Date) : List String :=
  [Calendar.plain d.year, Calendar.plain d.month, Calendar.plain d.day]

/-- The date in writing. -/
def written (d : Date) : String :=
  "datetime.date(" ++ String.intercalate ", " d.numbers ++ ")"

end Date

namespace Moment

/-- The moment that a date and numbers stand for. The offset is taken to be in range. -/
def ofNumbers (date : Date) (hour minute second microsecond : Nat) (offset : Option Int) :
    Except Calendar.Fault Moment :=
  if 23 < hour then .error .hour
  else if 59 < minute then .error .minute
  else if 59 < second then .error .second
  else .ok ⟨date, hour, minute, second, microsecond, offset⟩

/-- The number of microseconds from the start of the first year to a moment, in universal time if it
has an offset. -/
def instant (m : Moment) : Int :=
  ((m.date.ordinal * Calendar.daySeconds + m.hour * 3600 + m.minute * 60 + m.second : Nat)
    - m.offset.getD 0) * 1000000 + m.microsecond

/-- An offset as it is shown. -/
def offsetText (seconds : Int) : String :=
  (if seconds < 0 then "-" else "+") ++ Calendar.padded 2 (seconds.natAbs / 3600) ++ ":"
    ++ Calendar.padded 2 (seconds.natAbs / 60 % 60)

/-- The moment as it is shown. -/
def text (m : Moment) : String :=
  m.date.text ++ " " ++ Calendar.padded 2 m.hour ++ ":" ++ Calendar.padded 2 m.minute ++ ":"
    ++ Calendar.padded 2 m.second
    ++ (if m.microsecond = 0 then "" else "." ++ Calendar.padded 6 m.microsecond)
    ++ (m.offset.map offsetText).getD ""

/-- An offset in writing. -/
def writtenOffset (seconds : Int) : String :=
  "tzinfo=" ++ if seconds = 0 then "datetime.timezone.utc"
    else "datetime.timezone(" ++ Calendar.writtenSpan seconds ++ ")"

/-- The moment in writing. -/
def written (m : Moment) : String :=
  let seconds := if m.microsecond != 0 then [Calendar.plain m.second, Calendar.plain m.microsecond]
    else if m.second != 0 then [Calendar.plain m.second]
    else []
  "datetime.datetime("
    ++ String.intercalate ", "
      (m.date.numbers ++ [Calendar.plain m.hour, Calendar.plain m.minute] ++ seconds
        ++ (m.offset.map writtenOffset).toList)
    ++ ")"

end Moment
end TypeMismatch
