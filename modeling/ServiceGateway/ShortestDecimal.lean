import ServiceGateway.Binary64

/-!
# Shortest decimal text

The text of a binary64 number has the fewest digits that read back as the same number, and of those
digits the nearest to it. On each decimal grid only the two neighbours of the number need a test:
if any point of the grid reads back as the number, so does one of them. Seventeen digits always do.
Comparisons are between integers, in quarters of the smallest step and cleared of powers of ten.
-/
namespace ServiceGateway.Binary64

/-- `digits · 10 ^ place`. -/
structure DecimalPoint where
  digits : Nat
  place : Int
  deriving DecidableEq, Repr

/-- Quarters of a step in `10 ^ place`, as a quotient. -/
def gridQuarters (place : Int) : Nat × Nat :=
  if place < 0 then (4 * one, powerOfTen place.natAbs)
  else (4 * one * powerOfTen place.natAbs, 1)

/-- Quarters of a step between a number and the lower end of what rounds to it; the numbers below a
power of two lie closer than those above. -/
def lowerReach (steps : Nat) : Nat :=
  if steps = Nat.pow 2 steps.log2 ∧ 52 < steps.log2 then spacing steps else 2 * spacing steps

def upperReach (steps : Nat) : Nat := 2 * spacing steps

/-- Whether a point of the decimal grid reads back as the number of so many steps. The ends of the
range round to it when its significand is even. -/
def readsBack (steps : Nat) (p : DecimalPoint) : Bool :=
  let (numerator, denominator) := gridQuarters p.place
  let point := p.digits * numerator
  let low := (4 * steps - lowerReach steps) * denominator
  let high := (4 * steps + upperReach steps) * denominator
  if steps / spacing steps % 2 = 0 then decide (low ≤ point) && decide (point ≤ high)
  else decide (low < point) && decide (point < high)

/-- The number of digits in front of the decimal point; zeros behind the point count negative. -/
def leadingPlace (steps : Nat) : Int :=
  if one ≤ steps then (naturalText (steps / one)).length
  else 1 - ((naturalText (one / steps)).length : Int)

/-- The nearer of the two neighbours on a grid that read back, if any does. -/
def onGrid? (steps : Nat) (place : Int) : Option DecimalPoint :=
  let (numerator, denominator) := gridQuarters place
  let value := 4 * steps * denominator
  let below : DecimalPoint := ⟨value / numerator, place⟩
  let above : DecimalPoint := ⟨value / numerator + 1, place⟩
  let rest := value % numerator
  match readsBack steps below, readsBack steps above with
  | true, true =>
    if 2 * rest < numerator ∨ (2 * rest = numerator ∧ below.digits % 2 = 0) then some below
    else some above
  | true, false => some below
  | false, true => some above
  | false, false => none

/-- The shortest decimal for a positive count of steps. -/
def shortest (steps : Nat) : DecimalPoint :=
  let place := leadingPlace steps
  ((List.range 17).findSome? fun (i : Nat) => onGrid? steps (place - (i + 1))).getD
    ⟨steps / one, 0⟩

/-- Zeros at the end carry nothing. -/
def trimZeros (digits : Text) : Text := (digits.reverse.dropWhile (· = '0')).reverse

/-- Sixteen digits or fewer before the point, or up to three zeros behind it, are written out;
everything else has an exponent of at least two digits. -/
def layOut (digits : Text) (point : Int) : Text :=
  let count : Int := digits.length
  if -4 < point ∧ point ≤ 16 then
    if point ≤ 0 then "0." ++ List.replicate point.natAbs '0' ++ digits
    else if count ≤ point then digits ++ List.replicate (point - count).toNat '0' ++ ".0"
    else digits.take point.toNat ++ '.' :: digits.drop point.toNat
  else
    let exponent := point - 1
    let fraction := if digits.length = 1 then [] else '.' :: digits.drop 1
    digits.take 1 ++ fraction ++ 'e' :: (if exponent < 0 then '-' else '+') ::
      paddedText 2 exponent.natAbs

def magnitudeText (steps : Nat) : Text :=
  if steps = 0 then "0.0"
  else
    let p := shortest steps
    let digits := naturalText p.digits
    layOut (trimZeros digits) (digits.length + p.place)

/-- The text of a finite number; the others have none. -/
def text? : Binary64 → Option Text
  | finite negative steps =>
    some (if negative then '-' :: magnitudeText steps else magnitudeText steps)
  | _ => none

end ServiceGateway.Binary64
