import ServiceGateway.HttpStatus
import ServiceGateway.Json

/-!
# HTTP messages

A request is what the gateway is handed: the decoded path, the query text and the header fields as
they came, with names in small letters. Of a response only the parts that depend on the request are
kept.
-/
namespace ServiceGateway

/-- `origin` is the scheme and host under which the gateway is reached. -/
structure Request where
  origin : Text
  method : Text
  path : Text
  query : Text
  headers : List (Text × Text)
  deriving DecidableEq, Repr

namespace Request

/-- The path with the three characters that would end or bend a path in an address escaped. -/
def escapedPath (path : Text) : Text :=
  path.flatMap fun c =>
    if c = '?' then "%3F" else if c = '#' then "%23" else if c = '\\' then "%5C" else [c]

/-- The first value of each header field. -/
def fields (r : Request) : List (Text × Text) := firstMembers (· == ·) r.headers

end Request

inductive Body where
  | text (t : Text)
  | octets (b : Octets)
  deriving DecidableEq, Repr

namespace Body

def empty : Body := text []

def toOctets : Body → Octets
  | text t => utf8 t
  | octets b => b

end Body

structure Response where
  status : Int
  contentType : Option Text
  body : Body
  location : Option Text
  allow : List Text
  deriving DecidableEq, Repr

namespace Response

def plainText : Text := "text/plain; charset=utf-8"

def jsonType : Text := "application/json"

def octetType : Text := "application/octet-stream"

def bare (status : Int) : Response := ⟨status, none, .empty, none, []⟩

def withText (status : Int) (contentType text : Text) : Response :=
  { bare status with contentType := some contentType, body := .text text }

def withOctets (b : Octets) : Response :=
  { bare 200 with contentType := some octetType, body := .octets b }

/-- An answer that explains a failure. A missing explanation is the reason phrase, and a status
without a body drops the explanation. -/
def failure (status : Int) (detail : Option Text) : Response :=
  if allowsBody status then
    withText status jsonType (Json.textObject [("detail", detail.getD (reasonPhrase status))])
  else bare status

/-- Whether a text holds another one somewhere. -/
def holds (part : Text) : Text → Bool
  | [] => part.isEmpty
  | c :: rest => (below? part (c :: rest)).isSome || holds part rest

/-- The content type for a media type: texts get their character set unless they name one. -/
def contentTypeOf (mediaType : Text) : Text :=
  if (below? "text/" mediaType).isSome && !holds "charset=" (mediaType.map Char.toLower) then
    mediaType ++ "; charset=utf-8"
  else mediaType

/-- Whether a text has a form in Latin-1, in which header fields are sent. -/
def isLatin1 (t : Text) : Bool := t.all (·.toNat < 0x100)

/-- An answer that the data service prepared itself, unless its content type cannot be sent. -/
def ready? (status : Int) (mediaType : Option Text) (text : Text) : Option Response :=
  let contentType := mediaType.map contentTypeOf
  if contentType.all isLatin1 then
    some { bare status with contentType := contentType, body := .text text }
  else none

theorem failure_of_allowsBody {status : Int} (h : allowsBody status = true) (detail : Text) :
    failure status (some detail) =
      withText status jsonType (Json.textObject [("detail", detail)]) := by
  simp [failure, h]

end Response

end ServiceGateway
