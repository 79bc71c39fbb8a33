import ServiceGateway.IsoText
import ServiceGateway.NumberText
import ServiceGateway.Value

/-!
# Literals

A literal is the text, or the number of days, that a value without parts is made from. Reading it
gives the atom or tells why there is none.
-/
namespace ServiceGateway

inductive Literal where
  | double (t : Text)
  | complex (t : Text)
  | decimal (t : Text)
  | octets (t : Text)
  | buffer (t : Text)
  | date (t : Text)
  | moment (t : Text)
  | dayTime (t : Text)
  | days (n : Int)
  | fractionalDays (x : Binary64)
  deriving DecidableEq, Repr

inductive LiteralFault where
  | notDouble (t : Text)
  | notComplex
  | misplacedUnderscore (t : Text)
  | notDecimal
  | decimalOutOfRange
  | notHexadecimal (position : Nat)
  | iso (e : IsoFault)
  | duration (e : DurationFault)
  deriving DecidableEq, Repr

def LiteralFault.message : LiteralFault → Text
  | notDouble t => "could not convert string to float: " ++ quoted t
  | notComplex => "complex() arg is a malformed string"
  | misplacedUnderscore t => "could not convert string to complex: " ++ quoted t
  | notDecimal => "[<class 'decimal.ConversionSyntax'>]"
  | decimalOutOfRange => "[<class 'decimal.InvalidOperation'>]"
  | notHexadecimal position =>
    "non-hexadecimal number found in fromhex() arg at position " ++ naturalText position
  | iso e => e.message
  | duration e => e.message

namespace Literal

def orFault {α : Type} (r : Option α) (fault : LiteralFault) (f : α → Atom) :
    Except LiteralFault Atom :=
  match r with
  | some a => .ok (f a)
  | none => .error fault

def readDecimal (t : Text) : Except LiteralFault Decimal :=
  match Decimal.read? t with
  | some (.finite n) => if n.InRange then .ok (.finite n) else .error .decimalOutOfRange
  | some d => .ok d
  | none => .error .notDecimal

def read : Literal → Except LiteralFault Atom
  | double t => orFault (Binary64.read? t) (.notDouble t) .double
  | complex t =>
    match plainNumber? t with
    | some plain => orFault (ComplexNumber.ofPlain? plain) .notComplex .complex
    | none => .error (.misplacedUnderscore t)
  | decimal t => (readDecimal t).map Atom.decimal
  | octets t => ((octetsOfHex t).map Atom.octets).mapError .notHexadecimal
  | buffer t => ((octetsOfHex t).map Atom.buffer).mapError .notHexadecimal
  | date t => ((IsoText.readDate t).map Atom.date).mapError .iso
  | moment t => ((IsoText.readMoment t).map Atom.moment).mapError .iso
  | dayTime t => ((IsoText.readTime t).map Atom.dayTime).mapError .iso
  | days n => ((Duration.ofDays n).map Atom.duration).mapError .duration
  | fractionalDays x => ((Duration.ofFractionalDays x).map Atom.duration).mapError .duration

end Literal

end ServiceGateway
