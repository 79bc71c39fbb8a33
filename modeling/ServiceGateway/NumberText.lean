import ServiceGateway.Binary64
import ServiceGateway.Blanks
import ServiceGateway.DecimalDigits

/-!
# Numbers from text

Texts of numbers may have blanks around them and digits of any script. Real and complex numbers
take an underscore between two digits, and do not take control characters for blanks; decimal
numbers pass over underscores wherever they stand. The words for infinity and for no number are
read in either case; behind the latter, a decimal number may have further digits, which do not
count.
-/
namespace ServiceGateway

/-- A character outside ASCII that a number can hold. -/
def isForeign (c : Char) : Bool := 0x80 ≤ c.toNat && (isBlank c || asciiDigit c ≠ c)

/-- The ASCII form of a text of a real or complex number. In a text that is not ASCII from the
start, a question mark, which no number holds, stands for a character that cannot be in a number, or
for the delete character, and for all that follows it. -/
def asciiNumber (t : Text) : Text :=
  let known := t.takeWhile fun c => c.toNat < 0x7f || isForeign c
  let plain := known.map fun c => if 0x80 ≤ c.toNat && isBlank c then ' ' else asciiDigit c
  if t.all (·.toNat < 0x80) then t
  else if known = t then plain
  else plain ++ ['?']

/-- The text without its underscores, if each stands between two digits. The flag tells whether a
digit stands in front. -/
def joinDigits? : Bool → Text → Option Text
  | _, [] => some []
  | _, ['_'] => none
  | behindDigit, '_' :: c :: rest =>
    if behindDigit && c.isDigit then (joinDigits? true rest).map (c :: ·) else none
  | _, c :: rest => (joinDigits? c.isDigit rest).map (c :: ·)

/-- The ASCII form without blanks at its ends and without underscores. Behind a NUL, which no number
holds, underscores do not count; in front of one no underscore is in its place. -/
def plainNumber? (t : Text) : Option Text :=
  let plain := trimmed isAsciiBlank (asciiNumber t)
  if '_' ∉ beforeNul plain then some plain
  else if '\x00' ∈ plain then none
  else joinDigits? false plain

namespace Binary64

/-- The number at the beginning of a text, and what follows. -/
def readFirst? (t : Text) : Option (Binary64 × Text) :=
  let (negative, rest) := splitSign t
  ((belowWord? "infinity" rest).or (belowWord? "inf" rest)).map (infinite negative, ·)
    |>.or ((belowWord? "nan" rest).map (nan, ·))
    |>.or ((DecimalNumeral.readFirst? t).map fun (n, rest) => (ofNumeral n, rest))

def read? (t : Text) : Option Binary64 := do
  match readFirst? (← plainNumber? t) with
  | some (x, []) => some x
  | _ => none

def zero : Binary64 := finite false 0

def unit (negative : Bool) : Binary64 := finite negative one

end Binary64

structure ComplexNumber where
  real : Binary64
  imaginary : Binary64
  deriving DecidableEq, Repr

namespace ComplexNumber

/-- The letter of the imaginary unit behind an imaginary part. -/
def behindUnit? : Text → Option Text
  | 'j' :: rest | 'J' :: rest => some rest
  | _ => none

/-- An imaginary part at the beginning of a text, and what follows; a sign alone, or nothing, in
front of the unit stands for one. -/
def readImaginary? (t : Text) : Option (Binary64 × Text) :=
  let (y, rest) := (Binary64.readFirst? t).getD
    (let (negative, rest) := splitSign t; (.unit negative, rest))
  (behindUnit? rest).map (y, ·)

/-- A complex number at the beginning of a text, and what follows: an imaginary part, or a real part
with a signed imaginary part behind it or without one. -/
def readFirst? (t : Text) : Option (ComplexNumber × Text) :=
  match readImaginary? t with
  | some (y, rest) => some (⟨.zero, y⟩, rest)
  | none => do
    let (x, rest) ← Binary64.readFirst? t
    if rest.head? = some '+' ∨ rest.head? = some '-' then
      let (y, rest) ← readImaginary? rest
      some (⟨x, y⟩, rest)
    else some (⟨x, .zero⟩, rest)

/-- Brackets may stand around the number, with blanks on their insides. -/
def withoutBrackets (t : Text) : Text :=
  if t.head? = some '(' ∧ t.getLast? = some ')' then trimmed isAsciiBlank (t.drop 1).dropLast else t

/-- Reads the ASCII form of a text. -/
def ofPlain? (plain : Text) : Option ComplexNumber :=
  match readFirst? (withoutBrackets plain) with
  | some (z, []) => some z
  | _ => none

end ComplexNumber

namespace Decimal

/-- The ASCII form of a text of a decimal number. -/
def plainText (t : Text) : Text := ((trimmed isBlank t).filter (· ≠ '_')).map asciiDigit

/-- The words for infinity and for no number. -/
def readWord? (t : Text) : Option Decimal :=
  let (negative, rest) := splitSign t
  if belowWord? "infinity" rest = some [] ∨ belowWord? "inf" rest = some [] then
    some (infinite negative)
  else if ((belowWord? "nan" rest).any fun digits => digits.all (·.isDigit)) then some (nan false)
  else if ((belowWord? "snan" rest).any fun digits => digits.all (·.isDigit)) then some (nan true)
  else none

def read? (t : Text) : Option Decimal :=
  let plain := plainText t
  (readWord? plain).or ((DecimalNumeral.read? plain).map finite)

end Decimal

end ServiceGateway
