import ServiceGateway.EntityKey
import ServiceGateway.NumberText
import ServiceGateway.Octets
import ServiceGateway.Duration

/-!
# Atoms

Values without parts, with the names of their types.
-/
namespace ServiceGateway

inductive Atom where
  | null
  | boolean (b : Bool)
  | integer (n : Int)
  | double (x : Binary64)
  | complex (z : ComplexNumber)
  | decimal (d : Decimal)
  | text (t : Text)
  | octets (b : Octets)
  | buffer (b : Octets)
  | date (d : Date)
  | moment (m : Moment)
  | dayTime (c : DayTime)
  | duration (d : Duration)
  | object
  deriving DecidableEq, Repr

def Atom.typeName : Atom → Text
  | null => "builtins.NoneType"
  | boolean _ => "builtins.bool"
  | integer _ => KeyFault.integerType
  | double _ => "builtins.float"
  | complex _ => "builtins.complex"
  | decimal _ => "decimal.Decimal"
  | text _ => "builtins.str"
  | octets _ => "builtins.bytes"
  | buffer _ => "builtins.bytearray"
  | date _ => "datetime.date"
  | moment _ => "datetime.datetime"
  | dayTime _ => "datetime.time"
  | duration _ => "datetime.timedelta"
  | object => "builtins.object"

end ServiceGateway
