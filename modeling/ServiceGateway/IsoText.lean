import ServiceGateway.Blanks
import ServiceGateway.Calendar
import ServiceGateway.Octets
import ServiceGateway.QuotedText

/-!
# Dates and times from ISO 8601 text

Dates are read by month and day or by week, with or without dashes; a week without a day stands for
its Monday. Times have hours, and then minutes, seconds and a fraction as far as they are given,
with or without colons, and an offset from universal time, which has the form of a time or is a
`Z`. Any one character may stand between a date and a time. Reading is lenient in places: the
fraction may follow any field, further digits of it do not count, and neither does what is left
over in front of an offset, which is one ASCII character or stands behind six digits of a fraction,
nor the fraction of an offset of no whole seconds. What is left over at the end of a time must be
nothing, or begin with a NUL.
-/
namespace ServiceGateway

inductive IsoFault where
  | malformed (t : Text)
  | parts (e : CalendarFault)
  deriving DecidableEq, Repr

def IsoFault.message : IsoFault → Text
  | malformed t => "Invalid isoformat string: " ++ quoted t
  | parts e => e.message

namespace IsoText

/-- A number of exactly the given count of digits at the beginning of a text, and what follows. -/
def field? (width : Nat) (t : Text) : Option (Nat × Text) :=
  let digits := t.take width
  if digits.length = width ∧ digits.all (·.isDigit) then some (readDigits digits, t.drop width)
  else none

/-- What follows the dash that a dashed date has between its parts. -/
def behindDash? (dashed : Bool) (t : Text) : Option Text :=
  if dashed then below? ['-'] t else some t

/-- Behind the `W` of a date by week. -/
def weekDate? (year : Nat) (dashed : Bool) (t : Text) : Option (Nat × Nat × Nat) := do
  let (week, rest) ← field? 2 t
  if rest = [] then Date.partsOfWeek? year week 1
  else
    let (day, _) ← field? 1 (← behindDash? dashed rest)
    Date.partsOfWeek? year week day

/-- The parts of a date; what is left over behind it does not count. -/
def dateParts? (t : Text) : Option (Nat × Nat × Nat) := do
  let (year, rest) ← field? 4 t
  let dashed := rest.head? = some '-'
  let rest := if dashed then rest.drop 1 else rest
  if rest.head? = some 'W' then weekDate? year dashed (rest.drop 1)
  else
    let (month, rest) ← field? 2 rest
    let (day, _) ← field? 2 (← behindDash? dashed rest)
    some (year, month, day)

/-- Where the date ends in a text that may go on with a time. A dash behind a week belongs to the
date, unless two digits follow; a week without dashes has a day when an odd number of digits
follows. -/
def dateLength (t : Text) : Nat :=
  let digitAt (i : Nat) : Bool := (t[i]?.map (·.isDigit)).getD false
  if t.length = 7 then 7
  else if t[4]? = some '-' then
    if t[5]? = some 'W' ∧ (t[8]? ≠ some '-' ∨ digitAt 10) then 8 else 10
  else if t[4]? = some 'W' then
    let stop := 7 + ((t.drop 7).takeWhile (·.isDigit)).length
    if stop < 9 then stop else if stop % 2 = 0 then 7 else 8
  else 8

def isPoint (c : Char) : Bool := c = '.' || c = ','

/-- A fraction of a second in microseconds: up to six digits, and what follows them and any further
digits. Without digits there is no fraction. -/
def fraction? (t : Text) : Option (Nat × Text) :=
  let digits := t.take 6
  if digits ≠ [] ∧ digits.all (·.isDigit) then
    some (readDigits digits * powerOfTen (6 - digits.length),
      (t.drop 6).dropWhile (·.isDigit))
  else none

/-- The fields of a clock, at most as many as are given, its fraction, and what is left over. All
fields have colons in front of them or none has; `colons` is not known in front of the first. -/
def fields? (colons : Option Bool) : Nat → Text → Option (List Nat × Nat × Text)
  | 0, t => (fraction? t).map fun (microsecond, rest) => ([], microsecond, rest)
  | n + 1, t => do
    let (value, rest) ← field? 2 t
    match rest with
    | c :: behind =>
      let colons := colons.getD (c = ':')
      if behind = [] ∧ c.toNat < 0x80 then some ([value], 0, rest)
      else if isPoint c then
        let (microsecond, rest) ← fraction? behind
        some ([value], microsecond, rest)
      else if colons && c ≠ ':' then none
      else
        let (values, microsecond, rest) ←
          fields? (some colons) n (if colons then behind else rest)
        some (value :: values, microsecond, rest)
    | [] => some ([value], 0, [])

/-- Hours, minutes, seconds and microseconds, and what is left over in front of a NUL. -/
def clock? (t : Text) : Option ((Nat × Nat × Nat × Nat) × Text) := do
  let (values, microsecond, rest) ← fields? none 3 t
  some ((values.getD 0 0, values.getD 1 0, values.getD 2 0, microsecond), beforeNul rest)

/-- An offset with its sign in front or the `Z`, in microseconds. -/
def offset? : Text → Option Int
  | [] => none
  | 'Z' :: rest => if beforeNul rest = [] then some 0 else none
  | sign :: rest => do
    let ((hours, minutes, seconds, microsecond), rest) ← clock? rest
    let whole := 3600 * hours + 60 * minutes + seconds
    let n : Int := if whole = 0 then 0 else (whole * 1000000 + microsecond : Nat)
    if rest = [] then some (if sign = '-' then -n else n) else none

def startsOffset (c : Char) : Bool := c = '+' || c = '-' || c = 'Z'

/-- The parts of a time of day with its offset. -/
def timeParts? (t : Text) : Option ((Nat × Nat × Nat × Nat) × Option Int) := do
  let offset := t.dropWhile fun c => !startsOffset c
  let (parts, rest) ← clock? (t.takeWhile fun c => !startsOffset c)
  if offset = [] then if rest = [] then some (parts, none) else none
  else some (parts, some (← offset? offset))

/-- The time of day of parts; an offset out of range is found first. -/
def timeOfParts (parts : (Nat × Nat × Nat × Nat) × Option Int) : Except CalendarFault DayTime := do
  let ((hour, minute, second, microsecond), offset) := parts
  DayTime.ofParts hour minute second microsecond (← DayTime.checkOffset offset)

def orMalformed {α β : Type} (t : Text) (parts : Option α) (f : α → Except CalendarFault β) :
    Except IsoFault β :=
  match parts with
  | none => .error (.malformed t)
  | some a => (f a).mapError .parts

/-- A date has 7, 8 or 10 octets. -/
def readDate (t : Text) : Except IsoFault Date :=
  let length := (utf8 t).length
  orMalformed t (if length = 7 ∨ length = 8 ∨ length = 10 then dateParts? t else none)
    fun (year, month, day) => Date.ofParts year month day

/-- A `T` may stand in front of the time. -/
def readTime (t : Text) : Except IsoFault DayTime :=
  orMalformed t (timeParts? ((below? ['T'] t).getD t)) timeOfParts

/-- The parts of a moment; a date alone stands for its midnight. -/
def momentParts? (t : Text) :
    Option ((Nat × Nat × Nat) × Option ((Nat × Nat × Nat × Nat) × Option Int)) := do
  let length := dateLength t
  if t.length < 7 then none
  let date ← dateParts? (t.take length)
  if t.length ≤ length then some (date, none)
  else some (date, some (← timeParts? (t.drop (length + 1))))

/-- The offset is checked first, then the date, then the time. -/
def readMoment (t : Text) : Except IsoFault Moment :=
  orMalformed t (momentParts? t) fun ((year, month, day), time) => do
    let offset ← DayTime.checkOffset (time.bind (·.2))
    let date ← Date.ofParts year month day
    match time with
    | none => .ok ⟨date, .midnight⟩
    | some ((hour, minute, second, microsecond), _) =>
      .ok ⟨date, ← DayTime.ofParts hour minute second microsecond offset⟩

end IsoText

end ServiceGateway
