import ServiceGateway.Text

/-!
# Decimal numerals

A numeral is a sign, a natural coefficient and a power of ten; its text has digits with an optional
point and an optional exponent. Trailing zeros are part of the numeral, so `1.0` and `1` differ;
the reduced numeral has none, and is the same for all numerals of one number. A decimal number is a
numeral, an infinity or no number at all, which comes in a quiet and a signalling form.
-/
namespace ServiceGateway

structure DecimalNumeral where
  negative : Bool
  coefficient : Nat
  exponent : Int
  deriving DecidableEq, Repr

inductive Decimal where
  | finite (numeral : DecimalNumeral)
  | infinite (negative : Bool)
  | nan (signalling : Bool)
  deriving DecidableEq, Repr

def digitValue (c : Char) : Nat := c.toNat - '0'.toNat

def readDigits (digits : Text) : Nat := digits.foldl (fun n c => 10 * n + digitValue c) 0

/-- The sign in front of a number, and what follows. -/
def splitSign : Text → Bool × Text
  | '-' :: rest => (true, rest)
  | '+' :: rest => (false, rest)
  | t => (false, t)

/-- What stands behind a word in small letters at the beginning of a text, in either case of its
ASCII letters. -/
def belowWord? (word t : Text) : Option Text :=
  if (t.take word.length).map Char.toLower = word then some (t.drop word.length) else none

namespace DecimalNumeral

/-- The exponent at the beginning of a text, and what follows: the letter `e` in either case with a
signed number behind it. Without one, the exponent is zero and nothing is taken. -/
def readExponent (t : Text) : Int × Text :=
  match t with
  | [] => (0, t)
  | e :: rest =>
    let (negative, rest) := splitSign rest
    let digits := rest.takeWhile (·.isDigit)
    if (e = 'e' ∨ e = 'E') ∧ digits ≠ [] then
      (if negative then -(readDigits digits : Int) else readDigits digits,
        rest.dropWhile (·.isDigit))
    else (0, t)

/-- Digits with an optional point and exponent at the beginning of a text, and what follows. -/
def readUnsigned? (negative : Bool) (t : Text) : Option (DecimalNumeral × Text) :=
  let whole := t.takeWhile (·.isDigit)
  let (fraction, rest) := match t.dropWhile (·.isDigit) with
    | '.' :: rest => (rest.takeWhile (·.isDigit), rest.dropWhile (·.isDigit))
    | rest => ([], rest)
  if whole ++ fraction = [] then none
  else
    let (exponent, rest) := readExponent rest
    some (⟨negative, readDigits (whole ++ fraction), exponent - fraction.length⟩, rest)

/-- The longest numeral at the beginning of a text, and what follows. -/
def readFirst? (t : Text) : Option (DecimalNumeral × Text) :=
  let (negative, rest) := splitSign t
  readUnsigned? negative rest

/-- The numeral that the whole text is, if it is one. -/
def read? (t : Text) : Option DecimalNumeral :=
  match readFirst? t with
  | some (n, []) => some n
  | _ => none

/-- The digits in front of the point of a numeral without a fraction, with a sign if it has one.
Zero has neither a sign nor further zeros. -/
def wholeText (n : DecimalNumeral) : Text :=
  if n.coefficient = 0 then ['0']
  else
    (if n.negative then ['-'] else []) ++ naturalText n.coefficient ++
      List.replicate n.exponent.toNat '0'

/-- The count of those digits. -/
def wholeLength (n : DecimalNumeral) : Nat :=
  if n.coefficient = 0 then 1 else (naturalText n.coefficient).length + n.exponent.toNat

/-- The zeros at the end of the digits of a natural number. -/
def trailingZeros (n : Nat) : Nat := ((naturalText n).reverse.takeWhile (· = '0')).length

/-- The numeral of the same number without zeros at its end; zero has one reduced numeral. -/
def reduced (n : DecimalNumeral) : DecimalNumeral :=
  if n.coefficient = 0 then ⟨false, 0, 0⟩
  else
    let zeros := trailingZeros n.coefficient
    ⟨n.negative, n.coefficient / powerOfTen zeros, n.exponent + zeros⟩

/-- The place of the first digit: the count of digits in front of the point, less the zeros right
behind it. -/
def leadingPlace (n : DecimalNumeral) : Int := (naturalText n.coefficient).length + n.exponent

/-- The order of two numerals by what they denote, apart from their signs. Where the exponents are
far apart, the places of the first digits tell the larger one if they differ; then no power of ten
gets longer than the digits are. -/
def compareMagnitude (a b : DecimalNumeral) : Ordering :=
  let shift := a.exponent - b.exponent
  if a.coefficient = 0 ∨ b.coefficient = 0 then compare a.coefficient b.coefficient
  else if 5000 < shift.natAbs ∧ a.leadingPlace ≠ b.leadingPlace then
    compare a.leadingPlace b.leadingPlace
  else
    compare (a.coefficient * powerOfTen shift.toNat) (b.coefficient * powerOfTen (-shift).toNat)

/-- The order of two reduced numerals. -/
def compareReduced (a b : DecimalNumeral) : Ordering :=
  match a.negative, b.negative with
  | false, false => a.compareMagnitude b
  | true, true => b.compareMagnitude a
  | true, false => .lt
  | false, true => .gt

/-- Numerals have at most so many digits in front of the point, and so many behind it. -/
def InRange (n : DecimalNumeral) : Prop :=
  n.leadingPlace ≤ 1000000000000000000 ∧ -1999999999999999997 ≤ n.exponent

instance (n : DecimalNumeral) : Decidable n.InRange := by
  unfold InRange
  infer_instance

def ofInt (n : Int) : DecimalNumeral := ⟨decide (n < 0), n.natAbs, 0⟩

end DecimalNumeral

namespace Decimal

def zero : Decimal := finite ⟨false, 0, 0⟩

/-- What the number denotes, the same for all ways of writing it. -/
def denotation? : Decimal → Option Decimal
  | finite n => some (finite n.reduced)
  | infinite negative => some (infinite negative)
  | nan _ => none

/-- The order of two numbers with reduced numerals. -/
def order? : Decimal → Decimal → Option Ordering
  | finite m, finite n => some (m.compareReduced n)
  | infinite a, infinite b => some (compare b a)
  | finite _, infinite negative => some (if negative then .gt else .lt)
  | infinite negative, finite _ => some (if negative then .lt else .gt)
  | _, _ => none

end Decimal

end ServiceGateway
