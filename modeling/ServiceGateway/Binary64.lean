import ServiceGateway.DecimalNumeral

/-!
# Binary64 numbers

A finite number is kept as a sign and a count of smallest steps, 2 to the power -1074; all counts
below 2 to the power 53 occur, and of the larger ones those with at most 53 significant bits. All
arithmetic is on natural numbers. A zero keeps its sign; there is one value that is no number.
-/
namespace ServiceGateway

inductive Binary64 where
  | nan
  | infinite (negative : Bool)
  | finite (negative : Bool) (steps : Nat)
  deriving DecidableEq, Repr

namespace Binary64

/-- The steps in one. -/
def one : Nat := Nat.pow 2 1074

/-- The count that the finite numbers stay below. -/
def limit : Nat := Nat.pow 2 2098

/-- The natural number nearest to a quotient; of two, the even one. -/
def roundQuotient (numerator denominator : Nat) : Nat :=
  let q := numerator / denominator
  let r := numerator % denominator
  if 2 * r < denominator then q
  else if denominator < 2 * r then q + 1
  else if q % 2 = 0 then q else q + 1

/-- The spacing of the numbers around a count of steps. -/
def spacing (steps : Nat) : Nat := Nat.pow 2 (steps.log2 - 52)

/-- The nearest count of steps of a number to a quotient. -/
def roundSteps (numerator denominator : Nat) : Nat :=
  let width := spacing (numerator / denominator)
  roundQuotient numerator (denominator * width) * width

/-- The nearest number to a quotient of steps. -/
def ofSteps (negative : Bool) (numerator denominator : Nat) : Binary64 :=
  let steps := roundSteps numerator denominator
  if steps < limit then finite negative steps else infinite negative

/-- The nearest number to a decimal numeral. Numerals far outside the range of the finite numbers
are told from their size alone. -/
def ofNumeral (n : DecimalNumeral) : Binary64 :=
  let place := n.leadingPlace
  if n.coefficient = 0 ∨ place < -330 then finite n.negative 0
  else if 310 < place then infinite n.negative
  else if n.exponent < 0 then
    ofSteps n.negative (n.coefficient * one) (powerOfTen n.exponent.natAbs)
  else ofSteps n.negative (n.coefficient * powerOfTen n.exponent.natAbs * one) 1

def ofDecimal : Decimal → Binary64
  | .finite n => ofNumeral n
  | .infinite negative => infinite negative
  | .nan _ => nan

/-- The decimal number that the number is. Halves, quarters and so on have as many digits behind the
point as the exponent of two says. -/
def toDecimal : Binary64 → Decimal
  | nan => .nan false
  | infinite negative => .infinite negative
  | finite negative steps =>
    let common := steps.gcd one
    let places := (one / common).log2
    .finite ⟨negative, steps / common * Nat.pow 5 places, -(places : Int)⟩

/-- The integer that the number equals, if it is one. -/
def toInt? : Binary64 → Option Int
  | finite negative steps =>
    if steps % one = 0 then
      some (if negative then -(steps / one : Nat) else (steps / one : Nat))
    else none
  | _ => none

end Binary64

end ServiceGateway
