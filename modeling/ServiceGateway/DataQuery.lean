import ServiceGateway.Members
import ServiceGateway.ServiceName

/-!
# Data queries

A data query is a request addressed to one data service, as the service gets it: the rest of the
path, the query text as it came, the method and the header fields. A service may fail with a status
of its own, which need not be one that the protocol knows.
-/
namespace ServiceGateway

structure DataQuery where
  service : ServiceName
  path : Text
  query : Text
  method : Text
  headers : List (Text × Text)
  deriving DecidableEq, Repr

namespace DataQuery

/-- Whether two tables of header fields hold the same values under the same names. -/
def sameHeaders (a b : List (Text × Text)) : Bool :=
  a.length == b.length && a.all (b.contains ·)

/-- The part of a query by which it is filed: everything but the header fields. -/
def withoutHeaders (q : DataQuery) : DataQuery := { q with headers := [] }

/-- Header fields count, their order does not. -/
def same (a b : DataQuery) : Bool :=
  a.withoutHeaders == b.withoutHeaders && sameHeaders a.headers b.headers

end DataQuery

/-- A failure reported by a data service. -/
structure DataFailure where
  status : Int
  message : Option Text
  deriving DecidableEq, Repr

namespace DataFailure

def defaultStatus : Int := 500

/-- The message, or a sentence about the status where there is none or an empty one. -/
def text (f : DataFailure) : Text :=
  match f.message with
  | some (c :: cs) => c :: cs
  | _ => "Data request failed with status " ++ integerText f.status

/-- A failure comes with its text, so there is none with a status that the text would have to tell
and cannot. -/
def make? (status : Int) (message : Option Text) : Option DataFailure :=
  if (message = none ∨ message = some []) ∧ ¬ HasText status then none
  else some ⟨status, message⟩

end DataFailure

end ServiceGateway
