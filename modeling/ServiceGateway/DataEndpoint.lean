import ServiceGateway.Capitals
import ServiceGateway.DataQuery
import ServiceGateway.HttpMessage
import ServiceGateway.JsonEncoding
import ServiceGateway.RoutingPath

/-!
# The data endpoint

The endpoint resolves a request below its mount point and either answers at once or hands a data
query to the dispatcher, at most one per request. What the dispatcher gives back decides the
answer: a value, a response of its own, or a failure. A hidden service is answered as a missing one
unless the endpoint exposes it. A value without a JSON text is no failure of the dispatcher; the
error escapes from the endpoint.
-/
namespace ServiceGateway

/-- How a dispatch can fail: with a status of the service's own, because there is no such service,
or in any other way. The kind and text of the last three are the dispatcher's. -/
inductive Failure where
  | data (f : DataFailure)
  | lookup (kind message : Text)
  | http (status : Int) (detail : Text)
  | other (kind message : Text)
  deriving DecidableEq, Repr

inductive Outcome where
  | value (v : Value)
  | ready (r : Response)
  | failed (f : Failure)
  deriving Repr

/-- An answer with the records it left; `escaped` is the error that the answer stands in for. -/
structure Reply where
  response : Response
  log : List LogRecord
  escaped : Option EncodingFault
  deriving DecidableEq, Repr

/-- What is done with a request before the dispatcher is asked. -/
inductive Plan where
  | answer (reply : Reply)
  | dispatch (query : DataQuery)
  deriving DecidableEq, Repr

structure DataEndpoint where
  mount : Text
  exposeHidden : Bool
  deriving DecidableEq, Repr

namespace DataEndpoint

def requestLogger : Text := "dataroute.api.dependencies"

def dispatchLogger : Text := "dataroute.api.raw"

def missingText (service : ServiceName) : Text :=
  "Data service '" ++ service.text ++ "' not found"

def missing (service : ServiceName) : Response := .failure 404 (some (missingText service))

def unresolvedText (path : Text) : Text := "Path '" ++ path ++ "' does not name a data service"

def hiddenRecord (service : ServiceName) : LogRecord :=
  ⟨.info, requestLogger, "Rejected request to hidden data service '" ++ service.text ++ "'"⟩

/-- The record is made of the service and the status and put into words where it is printed, so a
status with too many digits for a text does not keep it from being made. -/
def failureRecord (service : ServiceName) (status : Int) : LogRecord :=
  ⟨.info, dispatchLogger,
    "Data service '" ++ service.text ++ "' failed with status " ++ integerText status⟩

def crashRecord (service : ServiceName) : LogRecord :=
  ⟨.error, dispatchLogger, "Dispatch failed for '" ++ service.text ++ "'"⟩

/-- The answer to a request that an unexpected error ended. -/
def serverError : Response := .withText 500 Response.plainText "Internal Server Error"

/-- The query of a request that resolves; the method is passed on in capitals. -/
def queryOf (r : Request) (resolution : Resolution) : DataQuery :=
  ⟨resolution.name, resolution.remainder, r.query, capitals r.method, r.fields⟩

/-- Resolves the escaped path, so a mount point with an escaped character is never found in it. -/
def plan (e : DataEndpoint) (r : Request) : Plan :=
  let path := Request.escapedPath r.path
  let mount := slashEnded e.mount
  match resolve path mount with
  | .error _ =>
    .answer ⟨.failure 400 (some (unresolvedText path)), resolutionLog path mount, none⟩
  | .ok resolution =>
    if resolution.name.isHidden && !e.exposeHidden then
      .answer ⟨missing resolution.name, [hiddenRecord resolution.name], none⟩
    else .dispatch (queryOf r resolution)

def ofValue (v : Value) : Reply :=
  match v with
  | .atom .null => ⟨.bare 204, [], none⟩
  | .atom (.octets b) => ⟨.withOctets b, [], none⟩
  | .atom (.buffer b) => ⟨.withOctets b, [], none⟩
  | .atom (.text t) => ⟨.withText 200 Response.plainText t, [], none⟩
  | v =>
    match v.jsonText with
    | .ok t => ⟨.withText 200 Response.jsonType t, [], none⟩
    | .error e => ⟨serverError, [], some e⟩

def ofFailure (service : ServiceName) : Failure → Reply
  | .data f => ⟨.failure f.status f.message, [failureRecord service f.status], none⟩
  | .lookup _ _ => ⟨missing service, [], none⟩
  | .http _ _ | .other _ _ =>
    ⟨.failure 500 (some "Data request failed".toList), [crashRecord service], none⟩

/-- The answer to a query once the dispatcher has spoken. -/
def conclude (query : DataQuery) : Outcome → Reply
  | .value v => ofValue v
  | .ready r => ⟨r, [], none⟩
  | .failed f => ofFailure query.service f

end DataEndpoint

end ServiceGateway
