import ServiceGateway.Duration

/-!
# Dates and times of day

Dates of the Gregorian calendar, extended backwards, from year 1 to year 9999, and times of day,
which may carry an offset from universal time. Dates are also counted by days and by weeks: day 1
is the first of January of year 1, and week 1 of a year is the one with its first Thursday. Two
times with offsets are the same when they agree in universal time; a time of day does not wrap
around midnight for that.
-/
namespace ServiceGateway

def isLeapYear (year : Nat) : Bool :=
  year % 4 == 0 && (year % 100 != 0 || year % 400 == 0)

def daysInMonth (year month : Nat) : Nat :=
  if month = 2 then (if isLeapYear year then 29 else 28)
  else if month = 4 ∨ month = 6 ∨ month = 9 ∨ month = 11 then 30
  else 31

def InCalendar (year month day : Nat) : Prop :=
  (1 ≤ year ∧ year ≤ 9999) ∧ (1 ≤ month ∧ month ≤ 12) ∧ 1 ≤ day ∧ day ≤ daysInMonth year month

instance (year month day : Nat) : Decidable (InCalendar year month day) := by
  unfold InCalendar
  infer_instance

structure Date where
  year : Nat
  month : Nat
  day : Nat
  inCalendar : InCalendar year month day
  deriving DecidableEq, Repr

/-- A part of a date or time out of its range, or an offset of a day or more, in microseconds. -/
inductive CalendarFault where
  | year (n : Nat)
  | month
  | day
  | hour
  | minute
  | second
  | offset (microseconds : Int)
  deriving DecidableEq, Repr

def CalendarFault.message : CalendarFault → Text
  | year n => "year " ++ naturalText n ++ " is out of range"
  | month => "month must be in 1..12"
  | day => "day is out of range for month"
  | hour => "hour must be in 0..23"
  | minute => "minute must be in 0..59"
  | second => "second must be in 0..59"
  | offset n =>
    "offset must be a timedelta strictly between -timedelta(hours=24) and timedelta(hours=24), not "
      ++ Duration.described ⟨n⟩ ++ "."

namespace Date

/-- Of several parts out of range the first decides. -/
def ofParts (year month day : Nat) : Except CalendarFault Date :=
  if hy : 1 ≤ year ∧ year ≤ 9999 then
    if hm : 1 ≤ month ∧ month ≤ 12 then
      if hd : 1 ≤ day ∧ day ≤ daysInMonth year month then .ok ⟨year, month, day, hy, hm, hd⟩
      else .error .day
    else .error .month
  else .error (.year year)

def text (d : Date) : Text :=
  paddedText 4 d.year ++ '-' :: paddedText 2 d.month ++ '-' :: paddedText 2 d.day

def daysBeforeYear (year : Nat) : Nat :=
  let y := year - 1
  365 * y + y / 4 - y / 100 + y / 400

def daysBeforeMonth (year month : Nat) : Nat :=
  (List.range (month - 1)).foldl (fun n m => n + daysInMonth year (m + 1)) 0

def ordinal (d : Date) : Nat := daysBeforeYear d.year + daysBeforeMonth d.year d.month + d.day

/-- The month and the day of the month after so many days, the months being given in order. -/
def inMonths (year : Nat) : List Nat → Nat → Nat × Nat
  | [], days => (12, days + 1)
  | month :: rest, days =>
    if days < daysInMonth year month then (month, days + 1)
    else inMonths year rest (days - daysInMonth year month)

/-- The parts of the date after so many days of the year, which may go on into the next year. -/
def partsInYear (year days : Nat) : Nat × Nat × Nat :=
  let length := if isLeapYear year then 366 else 365
  if days < length then (year, inMonths year (List.range' 1 12) days)
  else (year + 1, inMonths (year + 1) (List.range' 1 12) (days - length))

/-- The weekday of the first of January, with zero for Monday. -/
def firstWeekday (year : Nat) : Nat := daysBeforeYear year % 7

/-- Years that begin on a Thursday have 53 weeks, as have leap years that begin on a Wednesday. -/
def weeksInYear (year : Nat) : Nat :=
  if firstWeekday year = 3 ∨ (firstWeekday year = 2 ∧ isLeapYear year) then 53 else 52

/-- The parts of the date on a day of a week. The first week may begin in the year before, the last
one may end in the year after, which is no year of the calendar behind the last. The weeks of year 0
lie before the calendar and have no month. -/
def partsOfWeek? (year week day : Nat) : Option (Nat × Nat × Nat) :=
  if (1 ≤ week ∧ week ≤ weeksInYear year) ∧ 1 ≤ day ∧ day ≤ 7 then
    let first := firstWeekday year
    let days := 7 * (week - 1) + (day - 1) + (if first ≤ 3 then 0 else 7)
    if year = 0 then some (1, 0, 0)
    else if first ≤ days then some (partsInYear year (days - first))
    else some (partsInYear (year - 1) ((if isLeapYear (year - 1) then 366 else 365) + days - first))
  else none

end Date

/-- A time of day; the offset is in microseconds. -/
structure DayTime where
  hour : Nat
  minute : Nat
  second : Nat
  microsecond : Nat
  offset : Option Int
  deriving DecidableEq, Repr

namespace DayTime

def midnight : DayTime := ⟨0, 0, 0, 0, none⟩

def ofParts (hour minute second microsecond : Nat) (offset : Option Int) :
    Except CalendarFault DayTime :=
  if 24 ≤ hour then .error .hour
  else if 60 ≤ minute then .error .minute
  else if 60 ≤ second then .error .second
  else .ok ⟨hour, minute, second, microsecond, offset⟩

/-- An offset stays below a day either way. -/
def checkOffset (offset : Option Int) : Except CalendarFault (Option Int) :=
  match offset with
  | none => .ok none
  | some n => if n.natAbs < Duration.microsecondsPerDay then .ok (some n) else .error (.offset n)

def fractionText (microsecond : Nat) : Text :=
  if microsecond = 0 then [] else '.' :: paddedText 6 microsecond

/-- Hours and minutes, and seconds and a fraction where there are any. -/
def offsetText (offset : Int) : Text :=
  let seconds := offset.natAbs / 1000000
  let fraction := offset.natAbs % 1000000
  (if offset < 0 then '-' else '+') :: paddedText 2 (seconds / 3600) ++
    ':' :: paddedText 2 (seconds / 60 % 60) ++
    (if seconds % 60 = 0 ∧ fraction = 0 then []
    else ':' :: paddedText 2 (seconds % 60) ++ fractionText fraction)

def text (c : DayTime) : Text :=
  paddedText 2 c.hour ++ ':' :: paddedText 2 c.minute ++ ':' :: paddedText 2 c.second ++
    fractionText c.microsecond ++ (c.offset.map offsetText).getD []

def seconds (c : DayTime) : Int := 3600 * c.hour + 60 * c.minute + c.second

/-- What decides whether two times with offsets are the same: the seconds in universal time, and the
fractions of a second of the clock and of the offset. -/
def universal? (c : DayTime) : Option (Int × Nat × Int) :=
  c.offset.map fun o => (c.seconds - o.fdiv 1000000, c.microsecond, o.fmod 1000000)

end DayTime

/-- A time of day on a date. -/
structure Moment where
  date : Date
  time : DayTime
  deriving DecidableEq, Repr

namespace Moment

def text (m : Moment) : Text := m.date.text ++ 'T' :: m.time.text

/-- Microseconds in universal time. -/
def universal? (m : Moment) : Option Int :=
  m.time.offset.map fun o =>
    (86400 * m.date.ordinal + m.time.seconds) * 1000000 + m.time.microsecond - o

end Moment

end ServiceGateway
