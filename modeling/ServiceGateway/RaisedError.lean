import ServiceGateway.DataEndpoint

/-!
# Raised errors

A dispatcher that fails raises an error. An error has a class, and a class may be derived from
several others. Three classes are roots from which it matters to descend: failures that a data
service reports, lookups that find nothing, and errors with an HTTP status. The endpoint tries its
clauses in order, and the first whose root the error descends from decides, whatever else the error
descends from. There is no clause for HTTP errors, so their status is not looked at.
-/
namespace ServiceGateway

inductive RootClass where
  | reported | lookup | http
  deriving DecidableEq, Repr

def RootClass.name : RootClass → Text
  | reported => "DataError"
  | lookup => "LookupError"
  | http => "HTTPException"

/-- A class without bases that matter has none here. -/
inductive ErrorClass where
  | root (r : RootClass)
  | derived (name : Text) (bases : List ErrorClass)
  deriving Repr

namespace ErrorClass

def name : ErrorClass → Text
  | root r => r.name
  | derived name _ => name

mutual
/-- Whether the class is the root or derived from it, directly or through other classes. -/
def descendsFrom (r : RootClass) : ErrorClass → Bool
  | root s => s == r
  | derived _ bases => anyDescendsFrom r bases
def anyDescendsFrom (r : RootClass) : List ErrorClass → Bool
  | [] => false
  | c :: rest => c.descendsFrom r || anyDescendsFrom r rest
end

/-- The classes whose place is known. -/
def known : List (Text × ErrorClass) :=
  [("DataError", root .reported), ("LookupError", root .lookup), ("HTTPException", root .http),
    ("KeyError", derived "KeyError" [root .lookup]),
    ("IndexError", derived "IndexError" [root .lookup])]

/-- A class that is not known descends from none of the roots. -/
def ofName (name : Text) : ErrorClass := (known.lookup name).getD (derived name [])

end ErrorClass

/-- Errors of classes that give them no status have that of an unexplained failure. -/
structure RaisedError where
  kind : ErrorClass
  status : Int
  message : Option Text
  deriving Repr

namespace RaisedError

/-- What the clauses make of an error. -/
def failure (e : RaisedError) : Failure :=
  if e.kind.descendsFrom .reported then .data ⟨e.status, e.message⟩
  else if e.kind.descendsFrom .lookup then .lookup e.kind.name (e.message.getD [])
  else if e.kind.descendsFrom .http then .http e.status (e.message.getD [])
  else .other e.kind.name (e.message.getD [])

end RaisedError

end ServiceGateway
