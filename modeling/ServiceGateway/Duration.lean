import ServiceGateway.Binary64

/-!
# Durations

A duration is a whole number of microseconds of fewer than a billion days either way. Given in days,
the fraction of a day is turned into microseconds in binary64 numbers and rounded to the nearest
one, a half to the even neighbour; in seconds it is the nearest binary64 number.
-/
namespace ServiceGateway

structure Duration where
  microseconds : Int
  deriving DecidableEq, Repr

/-- Why a number of days is no duration: the days are too many, too many to be told, infinitely
many, or no number. -/
inductive DurationFault where
  | outOfRange (days : Int)
  | untold
  | infinite
  | notANumber
  deriving DecidableEq, Repr

def DurationFault.message : DurationFault → Text
  | outOfRange days => "days=" ++ integerText days ++ "; must have magnitude <= 999999999"
  | untold => "Python int too large to convert to C int"
  | infinite => "cannot convert float infinity to integer"
  | notANumber => "cannot convert float NaN to integer"

namespace Duration

def microsecondsPerDay : Nat := 86400000000

/-- Whole days, rounded down. -/
def days (d : Duration) : Int := d.microseconds.fdiv microsecondsPerDay

def InRange (d : Duration) : Prop := -999999999 ≤ d.days ∧ d.days ≤ 999999999

instance (d : Duration) : Decidable d.InRange := by
  unfold InRange
  infer_instance

/-- The days of a duration out of range are told in 32 bits. -/
def checked (d : Duration) : Except DurationFault Duration :=
  if d.InRange then .ok d
  else if -(Nat.pow 2 31 : Int) ≤ d.days ∧ d.days < (Nat.pow 2 31 : Int) then
    .error (.outOfRange d.days)
  else .error .untold

def ofDays (n : Int) : Except DurationFault Duration := checked ⟨n * microsecondsPerDay⟩

/-- The microseconds in a fraction of a day, which is given in steps. -/
def microsecondsOf (fraction : Nat) : Nat :=
  Binary64.roundQuotient (Binary64.roundSteps (fraction * microsecondsPerDay) 1) Binary64.one

/-- A duration of days that need not be whole. -/
def ofFractionalDays : Binary64 → Except DurationFault Duration
  | .finite negative steps =>
    let n := steps / Binary64.one * microsecondsPerDay + microsecondsOf (steps % Binary64.one)
    checked ⟨if negative then -(n : Int) else n⟩
  | .infinite _ => .error .infinite
  | .nan => .error .notANumber

def seconds (d : Duration) : Binary64 :=
  Binary64.ofNumeral ⟨d.microseconds < 0, d.microseconds.natAbs, -6⟩

/-- The duration as a constructor call with its days, seconds and microseconds that are not zero. -/
def described (d : Duration) : Text :=
  let rest := (d.microseconds.fmod microsecondsPerDay).toNat
  let parts : List (Text × Int) :=
    [("days", d.days), ("seconds", (rest / 1000000 : Nat)),
      ("microseconds", (rest % 1000000 : Nat))]
  let shown := (parts.filter fun p => p.2 ≠ 0).map fun p => p.1 ++ '=' :: integerText p.2
  "datetime.timedelta(" ++ (if shown = [] then ['0'] else joinWith ", " shown) ++ ")"

end Duration

end ServiceGateway
